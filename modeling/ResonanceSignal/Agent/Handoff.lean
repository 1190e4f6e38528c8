import ResonanceSignal.Agent.ProcessRuns
import ResonanceSignal.Lib.Channel
import ResonanceSignal.Lib.Transition

/-!
# The capture hand-off

The capture thread and the processing thread of `run_capture` with the two channels between them:
the messages of the capture thread, and the buffers that go back to it. An action is a step of one
thread up to its next operation on a channel, and a blocked operation is an action that is not
enabled, so a run of `step` is an interleaving of the two threads. What the capture loop reads of
the device, of the clock and of its flags comes with the action.

`Effect` says once what a step does to the channels and the threads, for everything that is proved
of runs.
-/

namespace ResonanceSignal

/-- `HANDOFF_CAPACITY` -/
def handoffCapacity : ℕ := 4

/-- `CaptureFailure::internal` -/
def CaptureFailure.internal (message : String) : CaptureFailure := ⟨.internal, .retryLater, message⟩

namespace CaptureTermination

/-- `CaptureTermination::new` -/
def new («end» : CaptureEnd) : CaptureTermination := ⟨«end», none⟩

/-- `CaptureTermination::with_diagnostic` -/
def withDiagnostic («end» : CaptureEnd) (diagnostic : String) : CaptureTermination :=
  ⟨«end», some diagnostic⟩

/-- `CaptureTermination::failed` -/
def failed (diagnostic : String) : CaptureTermination := withDiagnostic .failed diagnostic

end CaptureTermination

/-! ## The state -/

/-- Where the capture thread is. -/
inductive CaptureThread
  /-- Before the message that the stream started. -/
  | starting
  /-- Before the capture loop. -/
  | opened
  /-- In the capture loop, without a buffer. -/
  | polling
  /-- In the capture loop, with a buffer from the pool. -/
  | holding (buffer : List UInt8)
  /-- After the capture loop, before the stream is stopped. -/
  | stopping (loopEnd : Except CaptureTermination CaptureEnd)
  /-- Before the message that the stream ended. -/
  | ending (termination : CaptureTermination)
  /-- At the end of `capture_thread_inner`. -/
  | ended
  /-- At the end of `capture_thread_inner`, with a failure. -/
  | unwinding (failure : CaptureFailure)
  /-- Before the message that the capture failed. -/
  | failing (failure : CaptureFailure)
  /-- At the end of `capture_thread`. -/
  | leaving
  /-- After it. -/
  | returned
deriving DecidableEq

/-- Where the processing thread is. -/
inductive ProcessThread
  /-- In `process_capture`. -/
  | inside (place : Received)
  /-- At its end, without its end of the pool. -/
  | leaving (result : Except CaptureRunError CaptureReport)
  /-- After it. -/
  | returned (result : Except CaptureRunError CaptureReport)
deriving DecidableEq

/-- The two threads, and the channels between them. -/
structure Handoff where
  /-- The messages to the processing thread. -/
  capture : Channel CaptureMessage handoffCapacity
  /-- The buffers back to the capture thread. -/
  recycle : Channel (List UInt8) handoffCapacity
  /-- The capture thread. -/
  captureThread : CaptureThread
  /-- The processing thread. -/
  processThread : ProcessThread
deriving DecidableEq

namespace Handoff

/-- What a step shows: the message that it sends, the one that it receives, and the events of the
consumer's callback. -/
structure Output where
  /-- The message that the capture thread sends. -/
  sent : Option CaptureMessage
  /-- The message that the processing thread receives. -/
  received : Option CaptureMessage
  /-- The events. -/
  events : List StreamEvent
deriving DecidableEq

/-- A step that shows nothing. -/
def quiet : Output := ⟨none, none, []⟩

/-- A step that sends a message. -/
def sends (message : CaptureMessage) : Output := ⟨some message, none, []⟩

/-- The actions. -/
inductive Action
  /-- The stream starts, with a pool of buffers. -/
  | start (started : CaptureStarted)
  /-- The stream does not start. -/
  | failStart (failure : CaptureFailure)
  /-- The deadline of a bounded run is out of range. -/
  | failDeadline
  /-- The capture loop begins. -/
  | enterLoop
  /-- The capture loop ends: a stop, a signal of the endpoint, the deadline, or a failed wait or
  query. -/
  | leaveLoop (loopEnd : Except CaptureTermination CaptureEnd)
  /-- A packet is available: a buffer is taken from the pool. -/
  | takeBuffer
  /-- The packet cannot be read into the buffer. -/
  | failRead (termination : CaptureTermination)
  /-- The packet was read, and is handed off. -/
  | sendPacket (packet : CapturePacket)
  /-- The stream is stopped, with the termination of a failure to do so. -/
  | stopStream (failure : Option CaptureTermination)
  /-- The end of the stream is handed off. -/
  | sendEnded
  /-- `capture_thread_inner` returns and drops its end of the pool. -/
  | leaveInner
  /-- A failure is handed off. -/
  | sendFailed
  /-- `capture_thread` returns and drops its end of the messages. -/
  | leaveThread
  /-- The processing thread receives a message. -/
  | receive
  /-- The processing thread returns a buffer to the pool. -/
  | recycle
  /-- `process_capture` returns and drops its end of the pool. -/
  | dropRecycle
  /-- `process_capture` drops its end of the messages. -/
  | leaveProcess
deriving DecidableEq

/-- The two threads before they run. -/
def initial : Handoff where
  capture := .empty
  recycle := .empty
  captureThread := .starting
  processThread := .inside (.settled (.waiting .starting))

/-- The pool of a stream: as many buffers as the channel holds, each as long as the longest packet.
-/
def pool (started : CaptureStarted) : Channel (List UInt8) handoffCapacity where
  queue := List.replicate handoffCapacity
    (List.replicate (started.maximumPacketFrames.toNat * started.format.bytesPerFrame) 0)
  sender := true
  receiver := true
  length_le := le_of_eq List.length_replicate

/-- How a stream ends whose loop ended and which was then stopped. -/
def terminationOf (loopEnd : Except CaptureTermination CaptureEnd)
    (failure : Option CaptureTermination) : CaptureTermination :=
  match loopEnd, failure with
  | .ok reason, none => .new reason
  | .error termination, _ => termination
  | .ok _, some termination => termination

/-! ## The steps -/

/-- One step. -/
def step (processId : UInt32) (streamSequence : UInt64) (s : Handoff) :
    Action → Option (Output × Handoff)
  | .start started =>
    match s.captureThread with
    | .starting =>
      match s.capture.send (.started started) with
      | none => none
      | some none =>
        -- The sender of the pool is in the message that was not taken, and goes with it.
        some (quiet, { s with
          recycle := (pool started).dropSender
          captureThread :=
            .unwinding (.internal "processing path closed before stream start") })
      | some (some capture) =>
        some (sends (.started started), { s with
          capture
          recycle := pool started
          captureThread := .opened })
    | _ => none
  | .failStart failure =>
    match s.captureThread with
    | .starting => some (quiet, { s with captureThread := .unwinding failure })
    | _ => none
  | .failDeadline =>
    match s.captureThread with
    | .opened =>
      some (quiet, { s with
        captureThread :=
          .unwinding (.internal "capture duration exceeds the monotonic clock range") })
    | _ => none
  | .enterLoop =>
    match s.captureThread with
    | .opened => some (quiet, { s with captureThread := .polling })
    | _ => none
  | .leaveLoop loopEnd =>
    match s.captureThread with
    | .polling => some (quiet, { s with captureThread := .stopping loopEnd })
    | _ => none
  | .takeBuffer =>
    match s.captureThread with
    | .polling =>
      match s.recycle.tryRecv with
      | .ok (buffer, recycle) =>
        some (quiet, { s with recycle, captureThread := .holding buffer })
      | .error .empty =>
        -- Every buffer is out: an overload.
        some (quiet, { s with captureThread := .stopping (.ok .boundedHandoffExhausted) })
      | .error .disconnected =>
        some (quiet, { s with
          captureThread := .stopping (.error (.failed "capture buffer recycle channel closed")) })
    | _ => none
  | .failRead termination =>
    match s.captureThread with
    | .holding _ => some (quiet, { s with captureThread := .stopping (.error termination) })
    | _ => none
  | .sendPacket packet =>
    match s.captureThread with
    | .holding buffer =>
      -- The packet was read into the buffer that was taken.
      if packet.buffer.length = buffer.length then
        match s.capture.trySend (.packet packet) with
        | .ok capture =>
          some (sends (.packet packet), { s with capture, captureThread := .polling })
        | .error .full =>
          -- The packet goes with the error, and its buffer with it.
          some (quiet, { s with captureThread := .stopping (.ok .boundedHandoffExhausted) })
        | .error .disconnected =>
          some (quiet, { s with
            captureThread := .stopping (.error (.failed "processing path closed during capture")) })
      else none
    | _ => none
  | .stopStream failure =>
    match s.captureThread with
    | .stopping loopEnd =>
      some (quiet, { s with captureThread := .ending (terminationOf loopEnd failure) })
    | _ => none
  | .sendEnded =>
    match s.captureThread with
    | .ending termination =>
      match s.capture.send (.ended termination) with
      | none => none
      | some none =>
        some (quiet, { s with
          captureThread := .unwinding (.internal "processing path closed before stream end") })
      | some (some capture) =>
        some (sends (.ended termination), { s with capture, captureThread := .ended })
    | _ => none
  | .leaveInner =>
    -- The receiver of the pool is a local of `capture_thread_inner`.
    match s.captureThread with
    | .ended =>
      some (quiet, { s with recycle := s.recycle.dropReceiver, captureThread := .leaving })
    | .unwinding failure =>
      some (quiet, { s with recycle := s.recycle.dropReceiver, captureThread := .failing failure })
    | _ => none
  | .sendFailed =>
    match s.captureThread with
    | .failing failure =>
      match s.capture.send (.failed failure) with
      | none => none
      -- `capture_thread` ignores that nobody receives its failure.
      | some none => some (quiet, { s with captureThread := .leaving })
      | some (some capture) =>
        some (sends (.failed failure), { s with capture, captureThread := .leaving })
    | _ => none
  | .leaveThread =>
    match s.captureThread with
    | .leaving =>
      some (quiet, { s with capture := s.capture.dropSender, captureThread := .returned })
    | _ => none
  | .receive =>
    match s.processThread with
    | .inside (.settled (.waiting stage)) =>
      match s.capture.recv with
      | none => none
      | some none =>
        some (quiet, { s with processThread := .inside (.settled (.returned stage.closed)) })
      | some (some (message, capture)) =>
        let turn := stage.receive processId streamSequence message
        some (⟨none, some message, turn.events⟩, { s with
          capture
          processThread := .inside turn.next })
    | _ => none
  | .recycle =>
    match s.processThread with
    | .inside (.recycling state built buffer) =>
      match s.recycle.trySend buffer with
      | .ok recycle =>
        -- The events of the packet follow the return of its buffer.
        let turn := state.recycle built true
        some (⟨none, none, turn.events⟩, { s with
          recycle
          processThread := .inside (.settled turn.next) })
      | .error _ =>
        let turn := state.recycle built false
        some (⟨none, none, turn.events⟩, { s with
          processThread := .inside (.settled turn.next) })
    | _ => none
  | .dropRecycle =>
    match s.processThread with
    | .inside (.settled (.returned result)) =>
      some (quiet, { s with recycle := s.recycle.dropSender, processThread := .leaving result })
    | _ => none
  | .leaveProcess =>
    match s.processThread with
    | .leaving result =>
      some (quiet, { s with capture := s.capture.dropReceiver, processThread := .returned result })
    | _ => none

/-- A label of a run: the action, and what it shows. -/
abbrev Label := Action × Output

/-- The interleavings of the two threads. -/
def interleavings (processId : UInt32) (streamSequence : UInt64) : TransitionSystem Handoff Label :=
  .ofFn (step processId streamSequence)

/-- The messages that the capture thread sent. -/
def sent (labels : List Label) : List CaptureMessage := labels.filterMap fun l => l.2.sent

/-- The messages that the processing thread received. -/
def received (labels : List Label) : List CaptureMessage := labels.filterMap fun l => l.2.received

/-- The events that the processing thread emitted. -/
def emitted (labels : List Label) : List StreamEvent := labels.flatMap fun l => l.2.events

/-! ## What a step does -/

/-- The moves of the capture thread that touch no channel. -/
inductive Moves : CaptureThread → CaptureThread → Prop
  | failStart (failure : CaptureFailure) : Moves .starting (.unwinding failure)
  | failDeadline (failure : CaptureFailure) : Moves .opened (.unwinding failure)
  | enterLoop : Moves .opened .polling
  | leaveLoop (loopEnd : Except CaptureTermination CaptureEnd) : Moves .polling (.stopping loopEnd)
  | giveUp (buffer : List UInt8) (loopEnd : Except CaptureTermination CaptureEnd) :
    Moves (.holding buffer) (.stopping loopEnd)
  | stopStream (loopEnd : Except CaptureTermination CaptureEnd) (termination : CaptureTermination) :
    Moves (.stopping loopEnd) (.ending termination)

/-- The moves of the capture thread on a message that cannot be sent. -/
inductive HangsUp : CaptureThread → CaptureThread → Prop
  | sendEnded (termination : CaptureTermination) (failure : CaptureFailure) :
    HangsUp (.ending termination) (.unwinding failure)
  | sendFailed (failure : CaptureFailure) : HangsUp (.failing failure) .leaving

/-- What one step does to the threads and the channels. -/
inductive Effect (processId : UInt32) (streamSequence : UInt64) (s : Handoff) :
    Action → Output → Handoff → Prop
  | start {started : CaptureStarted} {capture : Channel CaptureMessage handoffCapacity}
    (hthread : s.captureThread = .starting)
    (hsend : s.capture.trySend (.started started) = .ok capture) :
    Effect processId streamSequence s (.start started) (sends (.started started))
      { s with capture, recycle := pool started, captureThread := .opened }
  | startHangsUp {started : CaptureStarted} {failure : CaptureFailure}
    (hthread : s.captureThread = .starting) (hreceiver : s.capture.receiver = false) :
    Effect processId streamSequence s (.start started) quiet
      { s with recycle := (pool started).dropSender, captureThread := .unwinding failure }
  | move {a : Action} {t : CaptureThread} (hmoves : Moves s.captureThread t) :
    Effect processId streamSequence s a quiet { s with captureThread := t }
  | hangUp {a : Action} {t : CaptureThread} (hhangs : HangsUp s.captureThread t)
    (hreceiver : s.capture.receiver = false) :
    Effect processId streamSequence s a quiet { s with captureThread := t }
  | takeBuffer {buffer : List UInt8} {recycle : Channel (List UInt8) handoffCapacity}
    (hthread : s.captureThread = .polling) (hrecv : s.recycle.tryRecv = .ok (buffer, recycle)) :
    Effect processId streamSequence s .takeBuffer quiet
      { s with recycle, captureThread := .holding buffer }
  | sendPacket {packet : CapturePacket} {buffer : List UInt8}
    {capture : Channel CaptureMessage handoffCapacity}
    (hthread : s.captureThread = .holding buffer)
    (hsend : s.capture.trySend (.packet packet) = .ok capture) :
    Effect processId streamSequence s (.sendPacket packet) (sends (.packet packet))
      { s with capture, captureThread := .polling }
  | sendEnded {termination : CaptureTermination}
    {capture : Channel CaptureMessage handoffCapacity}
    (hthread : s.captureThread = .ending termination)
    (hsend : s.capture.trySend (.ended termination) = .ok capture) :
    Effect processId streamSequence s .sendEnded (sends (.ended termination))
      { s with capture, captureThread := .ended }
  | leaveEnded (hthread : s.captureThread = .ended) :
    Effect processId streamSequence s .leaveInner quiet
      { s with recycle := s.recycle.dropReceiver, captureThread := .leaving }
  | leaveUnwinding {failure : CaptureFailure} (hthread : s.captureThread = .unwinding failure) :
    Effect processId streamSequence s .leaveInner quiet
      { s with recycle := s.recycle.dropReceiver, captureThread := .failing failure }
  | sendFailed {failure : CaptureFailure} {capture : Channel CaptureMessage handoffCapacity}
    (hthread : s.captureThread = .failing failure)
    (hsend : s.capture.trySend (.failed failure) = .ok capture) :
    Effect processId streamSequence s .sendFailed (sends (.failed failure))
      { s with capture, captureThread := .leaving }
  | leaveThread (hthread : s.captureThread = .leaving) :
    Effect processId streamSequence s .leaveThread quiet
      { s with capture := s.capture.dropSender, captureThread := .returned }
  | receive {stage : LoopStage} {message : CaptureMessage}
    {capture : Channel CaptureMessage handoffCapacity}
    (hthread : s.processThread = .inside (.settled (.waiting stage)))
    (hrecv : s.capture.tryRecv = .ok (message, capture)) :
    Effect processId streamSequence s .receive
      ⟨none, some message, (stage.receive processId streamSequence message).events⟩
      { s with
        capture
        processThread := .inside (stage.receive processId streamSequence message).next }
  | closed {stage : LoopStage}
    (hthread : s.processThread = .inside (.settled (.waiting stage)))
    (hqueue : s.capture.queue = []) (hsender : s.capture.sender = false) :
    Effect processId streamSequence s .receive quiet
      { s with processThread := .inside (.settled (.returned stage.closed)) }
  | recycle {state : Processing} {built : Except CaptureError BuiltAudioFrame}
    {buffer : List UInt8} {recycle : Channel (List UInt8) handoffCapacity}
    (hthread : s.processThread = .inside (.recycling state built buffer))
    (hsend : s.recycle.trySend buffer = .ok recycle) :
    Effect processId streamSequence s .recycle ⟨none, none, (state.recycle built true).events⟩
      { s with recycle, processThread := .inside (.settled (state.recycle built true).next) }
  | recycleFails {state : Processing} {built : Except CaptureError BuiltAudioFrame}
    {buffer : List UInt8} {error : TrySendError}
    (hthread : s.processThread = .inside (.recycling state built buffer))
    (hsend : s.recycle.trySend buffer = .error error) :
    Effect processId streamSequence s .recycle ⟨none, none, (state.recycle built false).events⟩
      { s with processThread := .inside (.settled (state.recycle built false).next) }
  | dropRecycle {result : Except CaptureRunError CaptureReport}
    (hthread : s.processThread = .inside (.settled (.returned result))) :
    Effect processId streamSequence s .dropRecycle quiet
      { s with recycle := s.recycle.dropSender, processThread := .leaving result }
  | leaveProcess {result : Except CaptureRunError CaptureReport}
    (hthread : s.processThread = .leaving result) :
    Effect processId streamSequence s .leaveProcess quiet
      { s with capture := s.capture.dropReceiver, processThread := .returned result }

variable {processId : UInt32} {streamSequence : UInt64} {s s' : Handoff} {a : Action}
  {output : Output}

/-- Every step has its effect. -/
theorem Effect.of_step (h : step processId streamSequence s a = some (output, s')) :
    Effect processId streamSequence s a output s' := by
  unfold step at h
  cases a with
  | start started =>
    dsimp only at h
    split at h
    next hthread =>
      split at h
      next hsend => cases h
      next hsend =>
        cases h
        exact .startHangsUp hthread (Channel.send_eq_some_none.mp hsend)
      next hsend =>
        cases h
        exact .start hthread (Channel.send_eq_some_some.mp hsend)
    next => cases h
  | failStart failure =>
    dsimp only at h
    split at h
    next hthread =>
      cases h
      exact .move (hthread ▸ .failStart failure)
    next => cases h
  | failDeadline =>
    dsimp only at h
    split at h
    next hthread =>
      cases h
      exact .move (hthread ▸ .failDeadline _)
    next => cases h
  | enterLoop =>
    dsimp only at h
    split at h
    next hthread =>
      cases h
      exact .move (hthread ▸ .enterLoop)
    next => cases h
  | leaveLoop loopEnd =>
    dsimp only at h
    split at h
    next hthread =>
      cases h
      exact .move (hthread ▸ .leaveLoop loopEnd)
    next => cases h
  | takeBuffer =>
    dsimp only at h
    split at h
    next hthread =>
      split at h
      next hrecv =>
        cases h
        exact .takeBuffer hthread hrecv
      next =>
        cases h
        exact .move (hthread ▸ .leaveLoop _)
      next =>
        cases h
        exact .move (hthread ▸ .leaveLoop _)
    next => cases h
  | failRead termination =>
    dsimp only at h
    split at h
    next hthread =>
      cases h
      exact .move (hthread ▸ .giveUp _ _)
    next => cases h
  | sendPacket packet =>
    dsimp only at h
    split at h
    next hthread =>
      split at h
      next hlength =>
        split at h
        next hsend =>
          cases h
          exact .sendPacket hthread hsend
        next =>
          cases h
          exact .move (hthread ▸ .giveUp _ _)
        next =>
          cases h
          exact .move (hthread ▸ .giveUp _ _)
      next => cases h
    next => cases h
  | stopStream failure =>
    dsimp only at h
    split at h
    next hthread =>
      cases h
      exact .move (hthread ▸ .stopStream _ _)
    next => cases h
  | sendEnded =>
    dsimp only at h
    split at h
    next hthread =>
      split at h
      next hsend => cases h
      next hsend =>
        cases h
        exact .hangUp (hthread ▸ .sendEnded _ _) (Channel.send_eq_some_none.mp hsend)
      next hsend =>
        cases h
        exact .sendEnded hthread (Channel.send_eq_some_some.mp hsend)
    next => cases h
  | leaveInner =>
    dsimp only at h
    split at h
    next hthread =>
      cases h
      exact .leaveEnded hthread
    next hthread =>
      cases h
      exact .leaveUnwinding hthread
    next => cases h
  | sendFailed =>
    dsimp only at h
    split at h
    next hthread =>
      split at h
      next hsend => cases h
      next hsend =>
        cases h
        exact .hangUp (hthread ▸ .sendFailed _) (Channel.send_eq_some_none.mp hsend)
      next hsend =>
        cases h
        exact .sendFailed hthread (Channel.send_eq_some_some.mp hsend)
    next => cases h
  | leaveThread =>
    dsimp only at h
    split at h
    next hthread =>
      cases h
      exact .leaveThread hthread
    next => cases h
  | receive =>
    dsimp only at h
    split at h
    next hthread =>
      split at h
      next hrecv => cases h
      next hrecv =>
        obtain ⟨hqueue, hsender⟩ := Channel.recv_eq_some_none.mp hrecv
        cases h
        exact .closed hthread hqueue hsender
      next hrecv =>
        cases h
        exact .receive hthread (Channel.recv_eq_some_some.mp hrecv)
    next => cases h
  | recycle =>
    dsimp only at h
    split at h
    next hthread =>
      split at h
      next hsend =>
        cases h
        exact .recycle hthread hsend
      next hsend =>
        cases h
        exact .recycleFails hthread hsend
    next => cases h
  | dropRecycle =>
    dsimp only at h
    split at h
    next hthread =>
      cases h
      exact .dropRecycle hthread
    next => cases h
  | leaveProcess =>
    dsimp only at h
    split at h
    next hthread =>
      cases h
      exact .leaveProcess hthread
    next => cases h

end Handoff

end ResonanceSignal
