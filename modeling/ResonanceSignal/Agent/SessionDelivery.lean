import ResonanceSignal.Agent.SessionConformance

/-!
# What a session delivers

The binary messages of a session pass from the encoder over the callback and the queue to the
socket. What was written, what is queued, what the callback is still to send and what the encoder
will make of the events to come are one list (`carried`), which every step shortens or keeps: a
message is moved on or dropped, and never repeated, changed or overtaken. So what is on the socket
is at any time a part, in order, of what the encoder makes of the capture's events
(`delivered_in_order`), and all of it until a message is refused or the session loop leaves
(`nothing_lost`).
-/

namespace ResonanceSignal

/-! ## The encoder's messages -/

/-- The binary messages that an encoder makes of events: none of an event that it fails to encode,
and none after one that it panics on. -/
def SessionEncoder.payloadsOf (self : SessionEncoder) : List StreamEvent → List (List UInt8)
  | [] => []
  | event :: events =>
    match self.encode event with
    | none => []
    | some (.error _, next) => next.payloadsOf events
    | some (.ok messages, next) => encodedPayloads messages ++ next.payloadsOf events

/-- It has given up an event. -/
def CallbackStage.isFailing : CallbackStage → Bool
  | idle => false
  | sending _ _ => false
  | failing _ => true

namespace Session

/-- The relabelled end of a stream has no binary message either. -/
theorem payloadsOf_relabel (encoder : SessionEncoder) (clientStop : Bool) (event : StreamEvent)
    (events : List StreamEvent) :
    encoder.payloadsOf (relabel clientStop event :: events)
      = encoder.payloadsOf (event :: events) := by
  obtain h | ⟨streamId, reason, reason', rfl, h⟩ := relabel_cases clientStop event
  · rw [h]
  · rw [h]
    rfl

/-! ## What is on its way -/

variable {s s' : Session}

/-- What is not on the socket yet: what is queued, what the callback is to send, and what the
encoder will make of the events to come. -/
def onTheWay (s : Session) : List (List UInt8) :=
  queuedPayloads s.events.queue
    ++ (encodedPayloads s.callback.unsent ++ s.encoder.payloadsOf s.upcoming)

/-- The binary messages of a session, from the socket back to the worker. -/
def carried (s : Session) : List (List UInt8) := payloads s.written ++ s.onTheWay

/-- A message was refused, or the queue was dropped. -/
def Lossy (s : Session) : Prop :=
  s.unhealthy = true ∨ s.callback.isFailing = true ∨ s.stage = .awaiting ∨ s.stage = .closed

instance (s : Session) : Decidable s.Lossy := inferInstanceAs (Decidable (_ ∨ _))

/-- A step carries what the one before it does, in order, and all of it where nothing was refused or
dropped; and what was lost stays lost. -/
structure Carries (s s' : Session) : Prop where
  /-- Nothing is repeated, changed or overtaken. -/
  sublist : s'.carried.Sublist s.carried
  /-- Nothing is lost. -/
  lossless : ¬s'.Lossy → s'.carried = s.carried
  /-- A loss is not undone. -/
  lossy : s.Lossy → s'.Lossy

/-- A step that keeps everything. -/
theorem Carries.of_eq (h : s'.carried = s.carried) (hlossy : s.Lossy → s'.Lossy) : Carries s s' :=
  ⟨h ▸ List.Sublist.refl _, fun _ => h, hlossy⟩

/-- What the worker passes on is what the encoder makes of it. -/
theorem Passes.carries (h : Passes s s') : Carries s s' := by
  -- An idle callback has nothing to send, and nothing was refused by it.
  have hlossy {callback : CallbackStage} {encoder : SessionEncoder} {upcoming : List StreamEvent}
      {completion : CaptureOwnerCompletion} (hidle : s.callback = .idle) (hs : s.Lossy) :
      Lossy { s with callback, encoder, upcoming, completion } := by
    rcases hs with hunhealthy | hfailing | hstage
    · exact .inl hunhealthy
    · rw [hidle] at hfailing
      cases hfailing
    · exact .inr (.inr hstage)
  have hstart {event : StreamEvent} {upcoming : List StreamEvent} (hidle : s.callback = .idle)
      (hupcoming : s.upcoming = event :: upcoming) :
      s.carried = payloads s.written ++ (queuedPayloads s.events.queue
        ++ s.encoder.payloadsOf (relabel s.clientStop event :: upcoming)) := by
    unfold carried onTheWay
    rw [hidle, hupcoming, payloadsOf_relabel]
    rfl
  cases h with
  | panicked hupcoming hidle hencode =>
    refine .of_eq ?_ (hlossy hidle)
    rw [hstart hidle hupcoming, SessionEncoder.payloadsOf, hencode]
    unfold carried onTheWay
    dsimp only
    rw [hidle]
    rfl
  | failed hupcoming hidle hencode =>
    refine .of_eq ?_ (hlossy hidle)
    rw [hstart hidle hupcoming, SessionEncoder.payloadsOf, hencode]
    rfl
  | encoded hupcoming hidle hencode =>
    refine .of_eq ?_ (hlossy hidle)
    rw [hstart hidle hupcoming, SessionEncoder.payloadsOf, hencode]
    rfl

/-- What the callback sends is queued, or refused. -/
theorem Sends.carries (h : Sends s s') : Carries s s' := by
  have hsending {event : StreamEvent} {messages : List EncodedEvent}
      {events : Channel SessionMessage eventQueueCapacity} {callback : CallbackStage}
      {observation : CaptureTerminalObservation}
      (hcallback : s.callback = .sending event messages) (hs : s.Lossy) :
      Lossy { s with events, callback, observation } := by
    rcases hs with hunhealthy | hfailing | hstage
    · exact .inl hunhealthy
    · rw [hcallback] at hfailing
      cases hfailing
    · exact .inr (.inr hstage)
  cases h with
  | @queued event message messages events hcallback hreceiver hreceiver' hsender hqueue =>
    refine .of_eq ?_ (hsending hcallback)
    -- The message moves from the callback's list to the end of the queue.
    have hmessage : encodedPayloads s.callback.unsent
        = queuedPayloads [.event message] ++ encodedPayloads messages := by
      rw [hcallback]
      exact encodedPayloads_append [message] messages
    show payloads s.written ++ (queuedPayloads events.queue ++ (encodedPayloads messages ++ _)) = _
    unfold carried onTheWay
    rw [hqueue, queuedPayloads_append, hmessage]
    simp only [List.append_assoc]
  | @refused event message messages hcallback hevents =>
    have hshorter : s.carried = payloads s.written ++ (queuedPayloads s.events.queue
        ++ (encodedPayloads (message :: messages) ++ s.encoder.payloadsOf s.upcoming)) := by
      unfold carried onTheWay
      rw [hcallback]
      rfl
    refine ⟨?_, fun hlossless => absurd (.inr (.inl rfl)) hlossless,
      fun _ => .inr (.inl rfl)⟩
    rw [hshorter]
    exact ((List.sublist_append_right _ _).append_left _).append_left _
  | returned hcallback =>
    refine .of_eq ?_ (hsending hcallback)
    unfold carried onTheWay
    dsimp only
    rw [hcallback]
    rfl

/-- The flag that is stored after a refusal changes nothing more. -/
theorem carries_storeUnhealthy (h : s.storeUnhealthy = some s') : Carries s s' := by
  obtain ⟨event, hcallback, rfl⟩ := storeUnhealthy_eq_some h
  refine .of_eq ?_ fun _ => .inl rfl
  unfold carried onTheWay
  dsimp only
  rw [hcallback]
  rfl

/-- A step in the background that keeps the events to come. -/
theorem Background.carries (h : Background s s') (hupcoming : s'.upcoming = s.upcoming) :
    Carries s s' := by
  obtain ⟨later, hqueue, hlater⟩ := h.queue
  refine .of_eq ?_ ?_
  · unfold carried onTheWay
    rw [h.written, h.callback, h.encoder, hupcoming, hqueue, queuedPayloads_append,
      queuedPayloads_of_no_event hlater, List.append_nil]
  · unfold Lossy
    rw [h.unhealthy, h.callback, h.stage]
    exact id

/-- An offer keeps the events to come. -/
theorem upcoming_offer (s : Session) (message : SessionMessage) :
    (s.offer message).upcoming = s.upcoming := by
  obtain ⟨events, heq, -⟩ := offer_cases s message
  rw [heq]

/-- The capture task and the service carry everything, where the supervisor starts. -/
theorem carries_background {a : Action} (ha : a.party = .captureTask ∨ a.party = .service)
    (h : s.step a = some s') (hstart : a ≠ .start false) : Carries s s' := by
  apply (background_of_step ha h).carries
  cases a with
  | start started =>
    cases started with
    | false => exact absurd rfl hstart
    | true =>
      have hstarted : s.startCapture true = some s' := h
      unfold startCapture at hstarted
      split at hstarted
      next =>
        cases hstarted
        rfl
      next => cases hstarted
  | poll => obtain ⟨-, rfl | rfl⟩ := poll_eq_some h <;> rfl
  | complete =>
    obtain ⟨-, -, rfl⟩ := complete_eq_some h
    rfl
  | expire => rcases expire_eq_some h with ⟨-, rfl⟩ | ⟨-, rfl⟩ <;> rfl
  | report =>
    obtain ⟨-, ⟨error, -, -, rfl⟩ | rfl⟩ := report_eq_some h
    · exact upcoming_offer s _
    · rfl
  | finish =>
    obtain ⟨-, rfl⟩ := finish_eq_some h
    exact upcoming_offer s _
  | release =>
    obtain ⟨-, -, rfl⟩ := release_eq_some h
    rfl
  | shutDown =>
    cases h
    rfl
  | event | send | fail => rcases ha with ha | ha <;> cases ha
  | checkHealth | checkShutdown | receive | client _ | storeStop | leave | close =>
    rcases ha with ha | ha <;> cases ha

/-- A supervisor that does not start has no events. -/
theorem sublist_failed_start (h : s.step (.start false) = some s') :
    s'.carried.Sublist s.carried := by
  have hstarted : s.startCapture false = some s' := h
  unfold startCapture at hstarted
  split at hstarted
  next =>
    cases hstarted
    have hoffer := background_offer s (.startupFailure .internal .doNotRetry) fun _ => by
      rintro ⟨⟩
    obtain ⟨later, hqueue, hlater⟩ := hoffer.queue
    unfold carried onTheWay
    dsimp only
    rw [hoffer.written, hoffer.callback, hoffer.encoder, hqueue, queuedPayloads_append,
      queuedPayloads_of_no_event hlater, List.append_nil]
    exact ((List.nil_sublist _).append_left _ |>.append_left _).append_left _
  next => cases hstarted

/-- What the session loop writes other than an event is not binary. -/
theorem carried_write {message : SocketMessage} {stage : SessionStage}
    (h : ∀ bytes, message ≠ .binary bytes) :
    carried { s.write message with stage } = s.carried := by
  have hnone : payloads [message] = [] := by
    apply payloads_of_no_binary
    intro m hm
    rw [List.mem_singleton] at hm
    exact hm ▸ h
  unfold carried onTheWay write
  dsimp only
  rw [payloads_append, hnone, List.append_nil]

/-- The session loop moves a message from the queue to the socket, or drops the queue. -/
theorem carries_sessionLoop {a : Action} (ha : a.party = .sessionLoop) (h : s.step a = some s') :
    Carries s s' := by
  -- In the loop, and as it is left, nothing was dropped yet.
  have hlossy {stage : SessionStage} (hstage : s.stage = stage) (hne : stage ≠ .awaiting)
      (hne' : stage ≠ .closed) (hunhealthy : s'.unhealthy = s.unhealthy)
      (hcallback : s'.callback = s.callback) (hs : s.Lossy) : s'.Lossy := by
    unfold Lossy
    rw [hunhealthy, hcallback]
    rcases hs with hs | hs | hs | hs
    · exact .inl hs
    · exact .inr (.inl hs)
    · exact absurd (hstage.symm.trans hs) hne
    · exact absurd (hstage.symm.trans hs) hne'
  cases a with
  | checkHealth =>
    obtain ⟨hstage, ⟨-, rfl⟩ | ⟨-, rfl⟩⟩ := checkHealth_eq_some h
    · exact .of_eq (carried_write (by rintro _ ⟨⟩))
        (hlossy hstage (by rintro ⟨⟩) (by rintro ⟨⟩) rfl rfl)
    · exact .of_eq rfl (hlossy hstage (by rintro ⟨⟩) (by rintro ⟨⟩) rfl rfl)
  | checkShutdown =>
    obtain ⟨hstage, ⟨-, rfl⟩ | ⟨-, rfl⟩⟩ := checkShutdown_eq_some h
    · exact .of_eq rfl (hlossy hstage (by rintro ⟨⟩) (by rintro ⟨⟩) rfl rfl)
    · exact .of_eq rfl (hlossy hstage (by rintro ⟨⟩) (by rintro ⟨⟩) rfl rfl)
  | receive =>
    obtain ⟨hstage, hreceives⟩ := receives_of_receive h
    have hkept := hlossy hstage (by rintro ⟨⟩) (by rintro ⟨⟩)
    cases hreceives with
    | @event event events hqueue hreceiver hsender =>
      refine .of_eq ?_ (hkept rfl rfl)
      unfold carried onTheWay write
      dsimp only
      rw [hqueue, queuedPayloads_event, payloads_append]
      simp only [List.append_assoc]
    | startupFailure hqueue =>
      refine .of_eq ?_ (hkept rfl rfl)
      unfold carried onTheWay write
      dsimp only
      rw [hqueue, payloads_append]
      simp only [List.append_assoc]
      rfl
    | finished hqueue =>
      refine .of_eq ?_ (hkept rfl rfl)
      unfold carried onTheWay
      rw [hqueue]
      rfl
    | disconnected hqueue hsender => exact .of_eq rfl (hkept rfl rfl)
  | client message =>
    obtain ⟨hstage, clientStop, stage, answers, rfl, -, hanswers⟩ := client_eq_some h
    refine .of_eq ?_ (hlossy hstage (by rintro ⟨⟩) (by rintro ⟨⟩) rfl rfl)
    unfold carried onTheWay
    dsimp only
    rw [payloads_append, payloads_of_no_binary hanswers, List.append_nil]
  | storeStop =>
    obtain ⟨hstage, rfl⟩ := storeStop_eq_some h
    exact .of_eq rfl (hlossy hstage (by rintro ⟨⟩) (by rintro ⟨⟩) rfl rfl)
  | leave =>
    obtain ⟨-, rfl⟩ := leave_eq_some h
    refine ⟨?_, fun hlossless => absurd (.inr (.inr (.inl rfl))) hlossless,
      fun _ => .inr (.inr (.inl rfl))⟩
    -- What was queued is dropped with the receiver.
    show (payloads s.written ++ _).Sublist _
    exact (List.sublist_append_right _ _).append_left _
  | close =>
    obtain ⟨-, -, rfl⟩ := closeSocket_eq_some h
    exact .of_eq (carried_write (by rintro _ ⟨⟩)) fun _ => .inr (.inr (.inr rfl))
  | event | send | fail | shutDown => cases ha
  | start _ | poll | complete | expire | report | finish | release => cases ha

/-- Every step carries what the one before it does. -/
theorem carries_of_step {a : Action} (h : s.step a = some s') (hstart : a ≠ .start false) :
    Carries s s' := by
  cases hparty : a.party with
  | worker =>
    cases a with
    | event => exact (passes_of_passEvent h).2.carries
    | send => exact (sends_of_sendNext h).carries
    | fail => exact carries_storeUnhealthy h
    | _ => cases hparty
  | captureTask => exact carries_background (.inl hparty) h hstart
  | service => exact carries_background (.inr hparty) h hstart
  | sessionLoop => exact carries_sessionLoop hparty h

/-- Every step, that of a failed start too, carries a part of what the one before it does. -/
theorem sublist_of_step {a : Action} (h : s.step a = some s') : s'.carried.Sublist s.carried := by
  by_cases hstart : a = .start false
  · subst hstart
    exact sublist_failed_start h
  · exact (carries_of_step h hstart).sublist

/-! ## Runs -/

variable {shuttingDown : Bool} {upcoming : List StreamEvent} {completion : CaptureOwnerCompletion}
  {actions : List Action}

/-- In every run, what was written and what is still on its way are a part, in order, of what the
encoder makes of the events. -/
theorem carried_of_run (h : sessionSystem.Run (new shuttingDown upcoming completion) actions s) :
    s.carried.Sublist (SessionEncoder.default.payloadsOf upcoming) := by
  apply TransitionSystem.Run.invariant (S := sessionSystem)
    (I := fun s => s.carried.Sublist (SessionEncoder.default.payloadsOf upcoming)) _ _ h
  · exact List.Sublist.refl _
  · intro s action s' hs hstep
    exact (sublist_of_step hstep).trans hs

/-- In every interleaving, the binary messages on the socket are a part, in order, of what the
encoder makes of the events of the capture: none is repeated, changed or overtaken. Writes of
the socket are assumed neither to fail nor to stall. -/
theorem delivered_in_order
    (h : sessionSystem.Run (new shuttingDown upcoming completion) actions s) :
    (payloads s.written).Sublist (SessionEncoder.default.payloadsOf upcoming) := by
  have hcarried := carried_of_run h
  exact (List.sublist_append_left _ _).trans hcarried

/-- The session whose socket misses a window. -/
def skippedSession : Session :=
  (skippingActions.foldlM (TransitionSystem.guarded step fun _ _ => True) burstSession).getD
    burstSession

/-- Also the messages that follow a gap are in order. -/
theorem delivered_in_order_skipped :
    (payloads skippedSession.written).Sublist
      (SessionEncoder.default.payloadsOf burstCapture.1) := by
  have hrun : sessionSystem.Run burstSession skippingActions skippedSession :=
    TransitionSystem.run_of_isSome (by decide +kernel)
  exact delivered_in_order hrun

/-- In every interleaving, until a message is refused or the queue is dropped, what is on the socket
and what is still on its way are all that the encoder makes of the events, provided that no write of
the socket fails or stalls: such a write loses its message. -/
theorem nothing_lost (h : sessionSystem.Run (new shuttingDown upcoming completion) actions s)
    (hstarted : .start false ∉ actions) (hlossless : ¬s.Lossy) :
    payloads s.written ++ s.onTheWay = SessionEncoder.default.payloadsOf upcoming := by
  have hall : .start false ∈ actions ∨ s.Lossy ∨
      s.carried = SessionEncoder.default.payloadsOf upcoming := by
    apply TransitionSystem.Run.history (S := sessionSystem) (I := fun actions s =>
      .start false ∈ actions ∨ s.Lossy ∨
        s.carried = SessionEncoder.default.payloadsOf upcoming) _ _ h
    · exact .inr (.inr rfl)
    · intro actions s action s' hrun hi hstep
      by_cases hfailed : action = .start false
      · exact .inl (by simp [hfailed])
      have hcarries := carries_of_step hstep hfailed
      rcases hi with hmem | hlossy | hsame
      · exact .inl (List.mem_append_left _ hmem)
      · exact .inr (.inl (hcarries.lossy hlossy))
      · by_cases hlossy : s'.Lossy
        · exact .inr (.inl hlossy)
        · exact .inr (.inr ((hcarries.lossless hlossy).trans hsame))
  rcases hall with hmem | hlossy | hsame
  · exact absurd hmem hstarted
  · exact absurd hlossy hlossless
  · exact hsame

/-- After the first window the others are still on their way. -/
theorem nothing_lost_first_window :
    payloads firstWindowSession.written ++ firstWindowSession.onTheWay
      = SessionEncoder.default.payloadsOf burstCapture.1 := by
  have hrun : sessionSystem.Run burstSession firstWindowActions firstWindowSession :=
    TransitionSystem.run_of_isSome (by decide +kernel)
  exact nothing_lost hrun (by decide) (by decide +kernel)

end Session

end ResonanceSignal
