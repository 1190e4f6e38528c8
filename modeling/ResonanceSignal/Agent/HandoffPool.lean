import ResonanceSignal.Agent.HandoffRuns

/-!
# The pool of the capture hand-off

Every buffer of a stream is in the pool, in a message, or with one of the threads. While the capture
thread is in its loop and the processing thread neither drains nor returns, none is lost, in every
interleaving (`Pooled.conserved`); so a buffer that goes back finds room, and a packet that is
handed off finds room once the start of the stream was received. What is queued before that is the
start and then packets (`Pooled.first`), which is why a fourth packet may find the messages full
until then.

The threads block on each other only through the messages, and each blocks in the state in which the
other does not: the capture thread where they are full, the processing thread where they are empty,
or once it has dropped its end of them.
-/

namespace ResonanceSignal

namespace Handoff

/-- Whether the capture thread is in `capture_loop`. -/
def inLoop : CaptureThread → Bool
  | .polling => true
  | .holding _ => true
  | _ => false

/-- Whether the capture thread has announced the stream, and not left its loop. -/
def capturing : CaptureThread → Bool
  | .opened => true
  | thread => inLoop thread

/-- The processing thread before it received the start of the stream. -/
def awaiting : ProcessThread := .inside (.settled (.waiting .starting))

/-- Whether `process_capture` has neither entered `drain_until_end` nor returned. -/
def processing : ProcessThread → Bool
  | .inside (.settled (.waiting .starting)) => true
  | .inside (.settled (.waiting (.processing _))) => true
  | .inside (.recycling _ _ _) => true
  | _ => false

/-- Where the buffers and the messages are in every interleaving. -/
structure Pooled (labels : List Label) (s : Handoff) : Prop where
  /-- No buffer is lost while the one thread captures and the other processes. -/
  conserved : capturing s.captureThread = true → processing s.processThread = true →
    s.buffers = handoffCapacity
  /-- Until the start is received it is the first message, and the others are packets. -/
  first : capturing s.captureThread = true → s.processThread = awaiting →
    ∃ started packets, s.capture.queue = .started started :: packets ∧
      ∀ message ∈ packets, isPacket message = true
  /-- From then on there are packets only. -/
  packets : capturing s.captureThread = true → s.processThread ≠ awaiting →
    ∀ message ∈ s.capture.queue, isPacket message = true
  /-- The processing thread that waits for the start did not receive it. -/
  unreceived : s.processThread = awaiting → ∀ started, .started started ∉ received labels
  /-- The capture thread drops its end of the messages when it returns. -/
  closed : s.captureThread = .returned → s.capture.sender = false

variable {processId : UInt32} {streamSequence : UInt64} {s s' : Handoff} {a : Action}
  {output : Output} {labels : List Label}

/-- Nothing is pooled before the first step. -/
theorem Pooled.initial : Pooled [] Handoff.initial :=
  ⟨nofun, nofun, nofun, fun _ _ => List.not_mem_nil, nofun⟩

/-- Of the moves that touch no channel, only one stays with the stream. -/
theorem Moves.capturing {t t' : CaptureThread} (h : Moves t t')
    (hcapturing : capturing t' = true) : t = .opened ∧ t' = .polling := by
  cases h with
  | enterLoop => exact ⟨rfl, rfl⟩
  | failStart => cases hcapturing
  | failDeadline => cases hcapturing
  | leaveLoop => cases hcapturing
  | giveUp => cases hcapturing
  | stopStream => cases hcapturing

/-- What the processing thread receives as it goes on processing: its buffer, if it is a packet. -/
theorem processing_receive {stage : LoopStage} {message : CaptureMessage}
    (h : processing (.inside (stage.receive processId streamSequence message).next) = true) :
    processing (.inside (.settled (.waiting stage))) = true ∧
      processHeld (.inside (stage.receive processId streamSequence message).next)
        = if isPacket message then 1 else 0 := by
  cases stage with
  | starting =>
    refine ⟨rfl, ?_⟩
    cases message with
    | packet packet => cases h
    | started started => rfl
    | ended termination => rfl
    | failed failure => rfl
  | processing state =>
    refine ⟨rfl, ?_⟩
    cases message with
    | packet packet =>
      simp only [LoopStage.receive, Processing.receive] at h ⊢
      split at h
      next => cases h
      next => rfl
    | started started => rfl
    | ended termination => rfl
    | failed failure => rfl
  | draining report => cases message <;> cases h

/-- No message sends the processing thread back to the start. -/
theorem receive_ne_awaiting {stage : LoopStage} {message : CaptureMessage} :
    ProcessThread.inside (stage.receive processId streamSequence message).next ≠ awaiting := by
  intro h
  cases stage with
  | starting =>
    cases message with
    | started started =>
      simp only [LoopStage.receive, beginStream] at h
      split at h <;> cases h
    | packet packet => cases h
    | ended termination => cases h
    | failed failure => cases h
  | processing state =>
    cases message with
    | packet packet =>
      simp only [LoopStage.receive, Processing.receive] at h
      split at h <;> cases h
    | started started => cases h
    | ended termination => cases h
    | failed failure => cases h
  | draining report => cases message <;> cases h

/-- Nor does the return of a buffer. -/
theorem recycle_ne_awaiting {state : Processing} {built : Except CaptureError BuiltAudioFrame}
    {recycled : Bool} :
    ProcessThread.inside (.settled (state.recycle built recycled).next) ≠ awaiting := by
  intro h
  unfold Processing.recycle at h
  split at h
  next => cases h
  next =>
    split at h
    next =>
      split at h <;> cases h
    next => cases h

/-! ## What a step keeps -/

/-- The capture thread leaves the stream, or returns. -/
theorem Pooled.leaves {t : CaptureThread} {capture : Channel CaptureMessage handoffCapacity}
    {recycle : Channel (List UInt8) handoffCapacity} {l : Label} (h : Pooled labels s)
    (hquiet : l.2.received = none) (hout : capturing t = false)
    (hclosed : t = .returned → capture.sender = false) :
    Pooled (labels ++ [l]) { s with capture, recycle, captureThread := t } := by
  constructor
  case conserved =>
    intro hcapturing
    exact absurd (hout.symm.trans hcapturing) nofun
  case first =>
    intro hcapturing
    exact absurd (hout.symm.trans hcapturing) nofun
  case packets =>
    intro hcapturing
    exact absurd (hout.symm.trans hcapturing) nofun
  case unreceived =>
    rw [received_snoc, hquiet]
    simpa using h.unreceived
  case closed => exact hclosed

/-- The processing thread moves on, past the wait for the start. -/
theorem Pooled.processes {p : ProcessThread} {capture : Channel CaptureMessage handoffCapacity}
    {recycle : Channel (List UInt8) handoffCapacity} {l : Label} (h : Pooled labels s)
    (hpast : p ≠ awaiting) (hsender : capture.sender = s.capture.sender)
    (hpackets : capturing s.captureThread = true →
      ∀ message ∈ capture.queue, isPacket message = true)
    (hconserved : processing p = true → processing s.processThread = true ∧
      recycle.queue.length + capture.queue.countP isPacket + processHeld p
        = s.recycle.queue.length + s.capture.queue.countP isPacket
          + processHeld s.processThread) :
    Pooled (labels ++ [l]) { s with capture, recycle, processThread := p } := by
  refine ⟨?_, fun _ hp => absurd hp hpast, fun hcapturing _ => hpackets hcapturing,
    fun hp => absurd hp hpast, fun hreturned => hsender.trans (h.closed hreturned)⟩
  intro hcapturing hp
  obtain ⟨hprocessing, hsame⟩ := hconserved hp
  have hbuffers := h.conserved hcapturing hprocessing
  unfold buffers at hbuffers ⊢
  dsimp only
  omega

/-- The messages that are left once the processing thread receives one are packets. -/
theorem Pooled.packets_tail (h : Pooled labels s) {message : CaptureMessage}
    {queue : List CaptureMessage} (hqueue : s.capture.queue = message :: queue)
    (hcapturing : capturing s.captureThread = true) : ∀ m ∈ queue, isPacket m = true := by
  by_cases hawaiting : s.processThread = awaiting
  · obtain ⟨started, packets, hfirst, hpackets⟩ := h.first hcapturing hawaiting
    rw [hqueue] at hfirst
    exact (List.cons.inj hfirst).2 ▸ hpackets
  · intro m hm
    exact h.packets hcapturing hawaiting m (hqueue ▸ List.mem_cons_of_mem _ hm)

/-- The capture thread stays with the stream, and may send packets. -/
theorem Pooled.stays {t : CaptureThread} {capture : Channel CaptureMessage handoffCapacity}
    {recycle : Channel (List UInt8) handoffCapacity} {l : Label} {later : List CaptureMessage}
    (h : Pooled labels s) (hquiet : l.2.received = none)
    (hcapturing : capturing s.captureThread = true) (ht : t ≠ .returned)
    (hqueue : capture.queue = s.capture.queue ++ later)
    (hlater : ∀ message ∈ later, isPacket message = true)
    (hsame : recycle.queue.length + capture.queue.countP isPacket + captureHeld t
      = s.recycle.queue.length + s.capture.queue.countP isPacket
        + captureHeld s.captureThread) :
    Pooled (labels ++ [l]) { s with capture, recycle, captureThread := t } := by
  constructor
  case conserved =>
    intro _ hprocessing
    have hbuffers := h.conserved hcapturing hprocessing
    unfold buffers at hbuffers ⊢
    dsimp only
    omega
  case first =>
    intro _ hawaiting
    obtain ⟨started, packets, hfirst, hpackets⟩ := h.first hcapturing hawaiting
    refine ⟨started, packets ++ later, by rw [hqueue, hfirst, List.cons_append], ?_⟩
    intro message hmessage
    exact (List.mem_append.mp hmessage).elim (hpackets message) (hlater message)
  case packets =>
    intro _ hpast message hmessage
    rw [hqueue] at hmessage
    exact (List.mem_append.mp hmessage).elim (h.packets hcapturing hpast message) (hlater message)
  case unreceived =>
    rw [received_snoc, hquiet]
    simpa using h.unreceived
  case closed => exact fun hreturned => absurd hreturned ht

/-- One step keeps the pool. -/
theorem Pooled.step (h : Pooled labels s) (hsound : s.Sound)
    (he : Effect processId streamSequence s a output s') : Pooled (labels ++ [(a, output)]) s' := by
  cases he with
  | @start started capture hthread hsend =>
    obtain ⟨hempty, -, hprocess⟩ := hsound.starting hthread
    obtain ⟨-, -, hqueue, -, -⟩ := Channel.trySend_ok_iff.mp hsend
    rw [hempty, List.nil_append] at hqueue
    constructor
    case conserved =>
      -- All buffers are in the pool, and the only message is the start.
      intro _ _
      unfold buffers
      dsimp only
      rw [hqueue, hprocess, pool, List.length_replicate]
      rfl
    case first => exact fun _ _ => ⟨started, [], hqueue, fun _ hm => absurd hm List.not_mem_nil⟩
    case packets => exact fun _ hpast => absurd hprocess hpast
    case unreceived =>
      rw [received_snoc]
      simpa [sends] using h.unreceived
    case closed => rintro ⟨⟩
  | startHangsUp hthread hgone => exact h.leaves rfl rfl (by rintro ⟨⟩)
  | @move a t hmoves =>
    cases hcapturing : capturing t with
    | false =>
      refine h.leaves rfl hcapturing ?_
      rintro rfl
      generalize s.captureThread = t₀ at hmoves
      cases hmoves
    | true =>
      obtain ⟨hthread, rfl⟩ := hmoves.capturing hcapturing
      refine h.stays rfl (by rw [hthread]; rfl) (by rintro ⟨⟩) (List.append_nil _).symm
        (fun _ hm => absurd hm List.not_mem_nil) ?_
      rw [hthread]
      rfl
  | @hangUp a t hhangs hgone =>
    refine h.leaves rfl ?_ ?_
    · generalize s.captureThread = t₀ at hhangs
      cases hhangs <;> rfl
    · rintro rfl
      generalize s.captureThread = t₀ at hhangs
      cases hhangs
  | takeBuffer hthread hrecv =>
    -- The buffer leaves the pool for the hands of the capture thread.
    obtain ⟨hqueue, -, -⟩ := Channel.tryRecv_ok_iff.mp hrecv
    refine h.stays rfl (by rw [hthread]; rfl) (by rintro ⟨⟩) (List.append_nil _).symm
      (fun _ hm => absurd hm List.not_mem_nil) ?_
    rw [hthread, hqueue, List.length_cons]
    simp only [captureHeld]
    omega
  | @sendPacket packet buffer capture hthread hsend =>
    -- It leaves them for the messages.
    obtain ⟨-, -, hqueue, -, -⟩ := Channel.trySend_ok_iff.mp hsend
    have hpacket : ∀ m ∈ [CaptureMessage.packet packet], isPacket m = true := by simp [isPacket]
    have hone : [CaptureMessage.packet packet].countP isPacket = 1 := rfl
    refine h.stays rfl (by rw [hthread]; rfl) (by rintro ⟨⟩) hqueue hpacket ?_
    rw [hthread, hqueue, List.countP_append, hone]
    simp only [captureHeld]
    omega
  | sendEnded hthread hsend => exact h.leaves rfl rfl (by rintro ⟨⟩)
  | leaveEnded hthread => exact h.leaves rfl rfl (by rintro ⟨⟩)
  | leaveUnwinding hthread => exact h.leaves rfl rfl (by rintro ⟨⟩)
  | sendFailed hthread hsend => exact h.leaves rfl rfl (by rintro ⟨⟩)
  | leaveThread hthread => exact h.leaves rfl rfl fun _ => rfl
  | @receive stage message capture hthread hrecv =>
    -- The buffer of a packet leaves the messages for the hands of the processing thread.
    obtain ⟨hqueue, hsender, -⟩ := Channel.tryRecv_ok_iff.mp hrecv
    refine h.processes receive_ne_awaiting hsender (h.packets_tail hqueue) ?_
    intro hprocessing
    obtain ⟨hbefore, hheld⟩ := processing_receive hprocessing
    rw [hthread]
    refine ⟨hbefore, ?_⟩
    rw [hheld, hqueue, List.countP_cons]
    simp only [processHeld]
    omega
  | closed hthread hqueue hclosed =>
    refine h.processes (by rintro ⟨⟩) rfl ?_ (by rintro ⟨⟩)
    intro _ m hm
    rw [hqueue] at hm
    cases hm
  | @recycle state built buffer recycle hthread hsend =>
    -- It goes back to the pool.
    obtain ⟨-, -, hqueue, -, -⟩ := Channel.trySend_ok_iff.mp hsend
    refine h.processes recycle_ne_awaiting rfl (fun hc => h.packets hc (by simp [hthread, awaiting]))
      fun _ => ?_
    rw [hthread]
    refine ⟨rfl, ?_⟩
    rw [hqueue, List.length_append]
    simp only [processHeld, List.length_singleton]
    omega
  | recycleFails hthread hsend =>
    exact h.processes recycle_ne_awaiting rfl
      (fun hc => h.packets hc (by simp [hthread, awaiting])) (by rintro ⟨⟩)
  | dropRecycle hthread =>
    exact h.processes (by rintro ⟨⟩) rfl (fun hc => h.packets hc (by simp [hthread, awaiting]))
      (by rintro ⟨⟩)
  | leaveProcess hthread =>
    refine h.processes (by rintro ⟨⟩) rfl ?_ (by rintro ⟨⟩)
    intro _ m hm
    cases hm

/-- Every interleaving keeps the pool. -/
theorem Pooled.of_run (h : (interleavings processId streamSequence).Run .initial labels s) :
    Pooled labels s := by
  apply TransitionSystem.Run.history (I := Pooled) .initial _ h
  intro labels t l t' hbefore ht hstep
  exact ht.step (Sound.of_run hbefore) (.of_step hstep)

/-! ## Blocked threads -/

/-- The messages that the capture thread sends by waiting for room. -/
inductive Sends : CaptureThread → CaptureMessage → Prop
  | started (started : CaptureStarted) : Sends .starting (.started started)
  | ended (termination : CaptureTermination) : Sends (.ending termination) (.ended termination)
  | failed (failure : CaptureFailure) : Sends (.failing failure) (.failed failure)

/-- The capture thread waits for room. -/
def CaptureBlocked (s : Handoff) : Prop :=
  ∃ message, Sends s.captureThread message ∧ s.capture.send message = none

/-- The processing thread waits in `recv`, in `drain_until_end`, or for the capture thread to join.
-/
def ProcessBlocked (s : Handoff) : Prop :=
  (∃ stage, s.processThread = .inside (.settled (.waiting stage)) ∧ s.capture.recv = none) ∨
    ∃ result, s.processThread = .returned result ∧ s.captureThread ≠ .returned

/-- The two threads are never both blocked. -/
theorem Sound.not_blocked (h : s.Sound) : ¬(CaptureBlocked s ∧ ProcessBlocked s) := by
  rintro ⟨⟨message, -, hsend⟩, hprocess⟩
  obtain ⟨hthere, hfull⟩ := Channel.send_eq_none.mp hsend
  rcases hprocess with ⟨stage, -, hrecv⟩ | ⟨result, hthread, -⟩
  · -- What is full is not empty.
    rw [(Channel.recv_eq_none.mp hrecv).1] at hfull
    cases hfull
  · -- A processing thread that returned dropped its end.
    have hreceiver := h.captureReceiver
    rw [hthread, hthere] at hreceiver
    cases hreceiver

/-- A capture thread that is neither blocked nor returned has a step. -/
theorem exists_step_of_capture (processId : UInt32) (streamSequence : UInt64)
    (hblocked : ¬CaptureBlocked s) (hreturned : s.captureThread ≠ .returned) :
    ∃ a, (step processId streamSequence s a).isSome := by
  -- What the thread sends finds room, or nobody receives it.
  have hroom : ∀ message, Sends s.captureThread message → s.capture.send message ≠ none :=
    fun message hsends hsend => hblocked ⟨message, hsends, hsend⟩
  unfold step
  cases hthread : s.captureThread with
  | starting => exact ⟨.failStart (.internal ""), by simp⟩
  | opened => exact ⟨.enterLoop, rfl⟩
  | polling => exact ⟨.leaveLoop (.ok .stopRequested), rfl⟩
  | holding buffer => exact ⟨.failRead (.failed ""), rfl⟩
  | stopping loopEnd => exact ⟨.stopStream none, rfl⟩
  | ending termination =>
    refine ⟨.sendEnded, ?_⟩
    dsimp only
    split
    next hnone => exact absurd hnone (hroom _ (hthread ▸ .ended termination))
    next => rfl
    next => rfl
  | ended => exact ⟨.leaveInner, rfl⟩
  | unwinding failure => exact ⟨.leaveInner, rfl⟩
  | failing failure =>
    refine ⟨.sendFailed, ?_⟩
    dsimp only
    split
    next hnone => exact absurd hnone (hroom _ (hthread ▸ .failed failure))
    next => rfl
    next => rfl
  | leaving => exact ⟨.leaveThread, rfl⟩
  | returned => exact absurd hthread hreturned

/-- Until both threads returned, one of them has a step. -/
theorem Pooled.exists_step (h : Pooled labels s) (hsound : s.Sound) (processId : UInt32)
    (streamSequence : UInt64)
    (hrunning : ¬(s.captureThread = .returned ∧ ∃ result, s.processThread = .returned result)) :
    ∃ a, (Handoff.step processId streamSequence s a).isSome := by
  by_cases hcapture : CaptureBlocked s ∨ s.captureThread = .returned
  · -- The capture thread has no step, so the processing thread is not blocked.
    have hprocess : ∀ stage, s.processThread = .inside (.settled (.waiting stage)) →
        s.capture.recv ≠ none := by
      intro stage hthread hrecv
      rcases hcapture with hblocked | hreturned
      · exact hsound.not_blocked ⟨hblocked, .inl ⟨stage, hthread, hrecv⟩⟩
      · have hsender := (Channel.recv_eq_none.mp hrecv).2
        rw [h.closed hreturned] at hsender
        cases hsender
    have hthere : ∀ result, s.processThread ≠ .returned result := by
      intro result hthread
      rcases hcapture with hblocked | hreturned
      · refine hsound.not_blocked ⟨hblocked, .inr ⟨result, hthread, ?_⟩⟩
        rintro hreturned
        obtain ⟨message, hsends, -⟩ := hblocked
        rw [hreturned] at hsends
        cases hsends
      · exact hrunning ⟨hreturned, result, hthread⟩
    obtain ⟨a, -, henabled⟩ := enabled_of_not_returned processId streamSequence hthere hprocess
    exact ⟨a, henabled⟩
  · rw [not_or] at hcapture
    exact exists_step_of_capture processId streamSequence hcapture.1 hcapture.2

/-! ## Overloads -/

/-- The steps of the processing thread leave the capture thread alone. -/
theorem captureThread_of_process
    (ha : a = .receive ∨ a = .recycle ∨ a = .dropRecycle ∨ a = .leaveProcess)
    (hstep : step processId streamSequence s a = some (output, s')) :
    s'.captureThread = s.captureThread := by
  unfold step at hstep
  rcases ha with rfl | rfl | rfl | rfl
  · dsimp only at hstep
    split at hstep
    next =>
      split at hstep
      next => cases hstep
      next =>
        cases hstep
        rfl
      next =>
        cases hstep
        rfl
    next => cases hstep
  · dsimp only at hstep
    split at hstep
    next =>
      split at hstep
      next =>
        cases hstep
        rfl
      next =>
        cases hstep
        rfl
    next => cases hstep
  · dsimp only at hstep
    split at hstep
    next =>
      cases hstep
      rfl
    next => cases hstep
  · dsimp only at hstep
    split at hstep
    next =>
      cases hstep
      rfl
    next => cases hstep

/-- The capture loop reports an overload for an empty pool, or for full messages. -/
theorem overload_cases (hloop : inLoop s.captureThread = true)
    (hstep : step processId streamSequence s a = some (output, s'))
    (hend : s'.captureThread = .stopping (.ok .boundedHandoffExhausted))
    (hother : a ≠ .leaveLoop (.ok .boundedHandoffExhausted)) :
    (a = .takeBuffer ∧ s.recycle.tryRecv = .error .empty) ∨
      ∃ packet buffer, s.captureThread = .holding buffer ∧
        s.capture.trySend (.packet packet) = .error .full := by
  have hprocess : ¬(a = .receive ∨ a = .recycle ∨ a = .dropRecycle ∨ a = .leaveProcess) := by
    intro ha
    rw [← captureThread_of_process ha hstep, hend] at hloop
    cases hloop
  unfold step at hstep
  cases hthread : s.captureThread with
  | polling =>
    -- Without a buffer, the loop ends for want of one.
    rw [hthread] at hstep
    cases a with
    | leaveLoop loopEnd =>
      cases hstep
      cases hend
      exact absurd rfl hother
    | takeBuffer =>
      dsimp only at hstep
      split at hstep
      next =>
        cases hstep
        cases hend
      next hempty => exact .inl ⟨rfl, hempty⟩
      next =>
        cases hstep
        cases hend
    | receive => exact absurd (.inl rfl) hprocess
    | recycle => exact absurd (.inr (.inl rfl)) hprocess
    | dropRecycle => exact absurd (.inr (.inr (.inl rfl))) hprocess
    | leaveProcess => exact absurd (.inr (.inr (.inr rfl))) hprocess
    | _ => cases hstep
  | holding buffer =>
    -- With a buffer, it ends on the packet that it hands off.
    rw [hthread] at hstep
    cases a with
    | failRead termination =>
      cases hstep
      cases hend
    | sendPacket packet =>
      dsimp only at hstep
      split at hstep
      next =>
        split at hstep
        next =>
          cases hstep
          cases hend
        next hfull => exact .inr ⟨packet, buffer, rfl, hfull⟩
        next =>
          cases hstep
          cases hend
      next => cases hstep
    | receive => exact absurd (.inl rfl) hprocess
    | recycle => exact absurd (.inr (.inl rfl)) hprocess
    | dropRecycle => exact absurd (.inr (.inr (.inl rfl))) hprocess
    | leaveProcess => exact absurd (.inr (.inr (.inr rfl))) hprocess
    | _ => cases hstep
  | _ =>
    rw [hthread] at hloop
    cases hloop

/-! ## The whole statement -/

/-- What holds of the pool and of the two threads after the steps of an interleaving. -/
structure Conserves (processId : UInt32) (streamSequence : UInt64) (labels : List Label)
    (s : Handoff) : Prop where
  /-- While the one thread is in its loop and the other neither drains nor returns, all buffers are
  there. -/
  conserved : inLoop s.captureThread = true → processing s.processThread = true →
    s.recycle.queue.length + s.capture.queue.countP isPacket + captureHeld s.captureThread
      + processHeld s.processThread = handoffCapacity
  /-- A buffer that goes back finds room. -/
  recycles : ∀ state built buffer, s.processThread = .inside (.recycling state built buffer) →
    s.recycle.trySend buffer ≠ .error .full
  /-- A packet that is handed off finds room once the start was received. -/
  hands : ∀ started buffer packet, .started started ∈ received labels →
    s.captureThread = .holding buffer → s.capture.trySend (.packet packet) ≠ .error .full
  /-- From then on the loop reports an overload only for an empty pool. The ends that it reads from
  its flags and from the device are other ones. -/
  overloads : ∀ started a output s', .started started ∈ received labels →
    inLoop s.captureThread = true → step processId streamSequence s a = some (output, s') →
    s'.captureThread = .stopping (.ok .boundedHandoffExhausted) →
    a ≠ .leaveLoop (.ok .boundedHandoffExhausted) →
    a = .takeBuffer ∧ s.recycle.tryRecv = .error .empty
  /-- The two threads are never both blocked. -/
  unblocked : ¬(CaptureBlocked s ∧ ProcessBlocked s)
  /-- So one of them has a step until both returned. -/
  runs : ¬(s.captureThread = .returned ∧ ∃ result, s.processThread = .returned result) →
    ∃ a, (step processId streamSequence s a).isSome

/-- Of every interleaving of the two threads: no buffer is lost while both are at work, neither
channel overflows, and the threads never block each other. -/
theorem handoff_conserves_pool (h : (interleavings processId streamSequence).Run .initial labels s) :
    Conserves processId streamSequence labels s := by
  have hpooled := Pooled.of_run h
  have hsound := Sound.of_run h
  have hcapturing : ∀ {t : CaptureThread}, inLoop t = true → capturing t = true := by
    intro t ht
    cases t <;> first | rfl | exact ht
  have hhands : ∀ started buffer packet, .started started ∈ received labels →
      s.captureThread = .holding buffer → s.capture.trySend (.packet packet) ≠ .error .full := by
    intro started buffer packet hreceived hthread hfull
    have hpast : s.processThread ≠ awaiting := fun hp => hpooled.unreceived hp started hreceived
    have hpackets := hpooled.packets (by rw [hthread]; rfl) hpast
    have hcount := List.countP_eq_length.mpr hpackets
    -- The capture thread holds one of the buffers, so not all of them are in messages.
    have hbuffers := hsound.buffers
    unfold buffers at hbuffers
    rw [hcount, (Channel.trySend_full_iff.mp hfull).2, hthread] at hbuffers
    simp only [captureHeld] at hbuffers
    omega
  refine ⟨?_, ?_, hhands, ?_, hsound.not_blocked, hpooled.exists_step hsound _ _⟩
  · exact fun hloop hprocessing => hpooled.conserved (hcapturing hloop) hprocessing
  · -- The processing thread holds one of the buffers, so not all of them are in the pool.
    intro state built buffer hthread hfull
    have hbuffers := hsound.buffers
    unfold buffers at hbuffers
    rw [(Channel.trySend_full_iff.mp hfull).2, hthread] at hbuffers
    simp only [processHeld] at hbuffers
    omega
  · intro started a output s' hreceived hloop hstep hend hother
    rcases overload_cases hloop hstep hend hother with hempty | ⟨packet, buffer, hthread, hfull⟩
    · exact hempty
    · exact absurd hfull (hhands started buffer packet hreceived hthread)

/-- A packet that is about to be handed off, after the start was received. -/
theorem handoff_conserves_pool_holding :
    ∃ labels s, (interleavings 1 0).Run .initial labels s ∧
      .started oneFrameStart ∈ received labels ∧ captureHeld s.captureThread = 1 ∧
      inLoop s.captureThread = true ∧ processing s.processThread = true ∧
      Conserves 1 0 labels s := by
  set run := TransitionSystem.trace (step 1 0) (fun _ _ => true) .initial
    [.start oneFrameStart, .enterLoop, .takeBuffer, .sendPacket oneFrame, .receive, .receive,
      .takeBuffer]
  have hsome : run.isSome = true := by decide +kernel
  have hreceived : run.map (fun r => received r.1)
      = some [.started oneFrameStart, .packet oneFrame] := by
    decide +kernel
  have hheld : run.map (fun r => captureHeld r.2.captureThread) = some 1 := by decide +kernel
  have hloop : run.map (fun r => inLoop r.2.captureThread) = some true := by decide +kernel
  have hprocessing : run.map (fun r => processing r.2.processThread) = some true := by
    decide +kernel
  obtain ⟨⟨labels, s⟩, htrace⟩ := Option.isSome_iff_exists.mp hsome
  rw [htrace] at hreceived hheld hloop hprocessing
  have hwhole : (interleavings 1 0).Run .initial labels s :=
    (TransitionSystem.run_of_trace htrace).of_restrict
  have hmessages : received labels = [.started oneFrameStart, .packet oneFrame] :=
    Option.some.inj hreceived
  refine ⟨labels, s, hwhole, ?_, Option.some.inj hheld, Option.some.inj hloop,
    Option.some.inj hprocessing, handoff_conserves_pool hwhole⟩
  rw [hmessages]
  exact List.mem_cons_self

end Handoff

end ResonanceSignal
