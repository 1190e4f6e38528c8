import ResonanceSignal.Agent.FailureAgreement
import ResonanceSignal.Agent.Wire
import ResonanceSignal.Lib.Channel
import ResonanceSignal.Lib.Transition

/-!
# A waveform session

`stream_session` and `run_capture_session` of `transport.rs` as a state machine with four parties
that run concurrently: the session loop, which owns the socket; the capture task, which supervises
the capture and ends the queue; the worker of the capture's owner, which passes the events of the
stream to the callback; and the client with the service around them. A step is what one party does
between two points at which another one can see it.

The worker's events, and what it completes with, are given from the start: which ones they are when
the capture is stopped early is left open, so every run of the worker is one of those. The
supervisor is what it makes of the owner's answers: whether it starts, whether a wait finds the
owner completed, and the completion.

Reads and writes of the socket are assumed to take no time and not to fail. In the source a write
that fails, or that stalls for `SOCKET_WRITE_TIMEOUT`, loses its message and ends the session loop.
-/

namespace ResonanceSignal

/-! ## Messages -/

/-- `EVENT_QUEUE_CAPACITY` -/
def eventQueueCapacity : ℕ := 16

/-- The messages of the capture task to the session loop. -/
inductive SessionMessage
  | event (event : EncodedEvent)
  | startupFailure (kind : ErrorKind) (retry : RetryHint)
  | finished

/-- The encoded event of a queued message. -/
def SessionMessage.event? : SessionMessage → Option EncodedEvent
  | .event encoded => some encoded
  | .startupFailure _ _ => none
  | .finished => none

/-- What is written on the socket. -/
inductive SocketMessage
  | text (value : Json)
  | binary (bytes : List UInt8)
  | pong (payload : List UInt8)
  | close

/-- What the client sends. A text is the stop request or another one. The end of the client's
messages, and an error in them, are taken like a close. -/
inductive ClientMessage
  | ping (payload : List UInt8)
  | pong
  | stopRequest
  | text
  | binary
  | close
deriving DecidableEq

/-- `startup_error_json` -/
def startupErrorJson (kind : ErrorKind) (retry : RetryHint) : Json :=
  .obj
    [("type", .str "stream_error"),
      ("protocol_version", .num protocolVersion.toNat),
      ("kind", .str (errorKindName kind)),
      ("scope", .obj [("type", .str "subscription")]),
      ("retry", .str (retryHintName retry))]

/-- `service_error_json` -/
def serviceErrorJson (kind : String) : Json :=
  .obj
    [("type", .str "stream_error"),
      ("protocol_version", .num protocolVersion.toNat),
      ("kind", .str kind),
      ("scope", .obj [("type", .str "subscription")]),
      ("retry", .str "do_not_retry")]

/-- The message that carries an encoded event. -/
def EncodedEvent.socketMessage : EncodedEvent → SocketMessage
  | text value => .text value
  | binary bytes => .binary bytes

/-! ## The state -/

/-- Where the callback of the capture is. -/
inductive CallbackStage
  /-- It is not called. -/
  | idle
  /-- It sends the messages of an event. -/
  | sending (event : StreamEvent) (messages : List EncodedEvent)
  /-- It has given up an event, and is about to say so. -/
  | failing (event : StreamEvent)

/-- Where the capture task is. -/
inductive CaptureTaskStage
  /-- It is about to start the supervisor. -/
  | starting
  /-- It is about to look at the flags. -/
  | polling
  /-- It waits for the owner's completion. -/
  | waiting
  /-- It waits for the owner's completion after a stop. -/
  | stopping
  /-- It is about to report a failure of the start. -/
  | reporting
  /-- It is about to say that it has finished. -/
  | finishing
  /-- It is about to drop the supervisor and the queue. -/
  | releasing
  | returned
deriving DecidableEq

/-- Where the session loop is. -/
inductive SessionStage
  /-- It is about to look whether the session is unhealthy. -/
  | checkingHealth
  /-- It is about to look whether the service shuts down. -/
  | checkingShutdown
  /-- It waits for the queue and for the client. -/
  | selecting
  /-- It has taken a stop request, and is about to stop the capture. -/
  | stopping
  /-- It has left the loop. -/
  | leaving
  /-- It waits for the capture task. -/
  | awaiting
  | closed
deriving DecidableEq

/-- The session loop has left the loop. -/
def SessionStage.left : SessionStage → Bool
  | checkingHealth => false
  | checkingShutdown => false
  | selecting => false
  | stopping => false
  | leaving => true
  | awaiting => true
  | closed => true

/-- The state of a session. -/
structure Session where
  /-- The queue from the capture task to the session loop. -/
  events : Channel SessionMessage eventQueueCapacity
  /-- `stop` -/
  stop : Bool
  /-- `client_stop` -/
  clientStop : Bool
  /-- `unhealthy` -/
  unhealthy : Bool
  /-- `shutting_down` of the service. -/
  shuttingDown : Bool
  /-- The events that the worker is yet to pass to the callback. -/
  upcoming : List StreamEvent
  /-- What the owner completes with. -/
  completion : CaptureOwnerCompletion
  /-- The callback. -/
  callback : CallbackStage
  /-- Its encoder. -/
  encoder : SessionEncoder
  /-- What the supervisor has observed of the events. -/
  observation : CaptureTerminalObservation
  /-- The capture task. -/
  task : CaptureTaskStage
  /-- The completion that the supervisor knows. -/
  ownerCompletion : Option CaptureOwnerCompletion
  /-- The session loop. -/
  stage : SessionStage
  /-- What was written on the socket, in order. -/
  written : List SocketMessage

namespace Session

/-- A session whose loop and capture task begin. -/
def new (shuttingDown : Bool) (upcoming : List StreamEvent)
    (completion : CaptureOwnerCompletion) : Session where
  events := .empty
  stop := false
  clientStop := false
  unhealthy := false
  shuttingDown := shuttingDown
  upcoming := upcoming
  completion := completion
  callback := .idle
  encoder := .default
  observation := .default
  task := .starting
  ownerCompletion := none
  stage := .checkingHealth
  written := []

/-- The worker has returned. -/
def workerDone (self : Session) : Bool :=
  match self.upcoming, self.callback with
  | [], .idle => true
  | _, _ => false

/-- A message that the capture task sends where there is room for it. -/
def offer (self : Session) (message : SessionMessage) : Session :=
  match self.events.trySend message with
  | .ok events => { self with events }
  | .error _ => self

/-- A message that the session loop writes. -/
def write (self : Session) (message : SocketMessage) : Session :=
  { self with written := self.written ++ [message] }

/-- The session loop has looked at the flags, and is about to take a message. -/
def Waits (s : Session) : Prop :=
  s.stage = .selecting ∨ (s.stage = .checkingShutdown ∧ s.shuttingDown = false)

instance (s : Session) : Decidable s.Waits := inferInstanceAs (Decidable (_ ∨ _))

/-- The session loop has left the loop. -/
def Left (s : Session) : Prop := s.stage.left = true

instance (s : Session) : Decidable s.Left := inferInstanceAs (Decidable (_ = _))

/-! ## Steps -/

/-- The steps of a session. -/
inductive Action
  /-- The worker passes the next event to the callback, which encodes it. -/
  | event
  /-- The callback sends the next message, or returns after the last one. -/
  | send
  /-- The callback stores that the session is unhealthy, and returns. -/
  | fail
  /-- The capture task starts the supervisor. -/
  | start (started : Bool)
  /-- The capture task looks at the flags. -/
  | poll
  /-- A wait of the capture task finds the owner completed. -/
  | complete
  /-- A wait of the capture task expires. -/
  | expire
  /-- The capture task reports a failure of the start. -/
  | report
  /-- The capture task says that it has finished. -/
  | finish
  /-- The capture task drops the supervisor and its end of the queue, and returns. -/
  | release
  /-- The session loop looks whether the session is unhealthy. -/
  | checkHealth
  /-- The session loop looks whether the service shuts down. -/
  | checkShutdown
  /-- The session loop takes a message from the queue. -/
  | receive
  /-- The session loop takes a message of the client. -/
  | client (message : ClientMessage)
  /-- The session loop stops the capture for the client. -/
  | storeStop
  /-- The session loop stops the capture, and drops its end of the queue. -/
  | leave
  /-- The session loop closes the socket. -/
  | close
  /-- The service shuts down. -/
  | shutDown
deriving DecidableEq

/-- The parties of a session. -/
inductive Party
  /-- The worker of the owner, with the callback. -/
  | worker
  | captureTask
  | sessionLoop
  | service
deriving DecidableEq

/-- Whose step it is. -/
def Action.party : Action → Party
  | event | send | fail => .worker
  | start _ | poll | complete | expire | report | finish | release => .captureTask
  | checkHealth | checkShutdown | receive | client _ | storeStop | leave | close => .sessionLoop
  | shutDown => .service

/-- The event that the callback encodes: a stop that the client asked for is its own. -/
def relabel (clientStop : Bool) : StreamEvent → StreamEvent
  | .ended streamId .providerShutdown =>
    .ended streamId (if clientStop then .consumerCancelled else .providerShutdown)
  | event => event

/-- A relabelled event is the same, or an end with another reason. -/
theorem relabel_cases (clientStop : Bool) (event : StreamEvent) :
    relabel clientStop event = event ∨ ∃ streamId reason reason',
      event = .ended streamId reason ∧ relabel clientStop event = .ended streamId reason' := by
  unfold relabel
  split
  next streamId => exact .inr ⟨streamId, _, _, rfl, rfl⟩
  next => exact .inl rfl

/-- The worker passes the next event to the callback. A panic of the encoder ends the worker. -/
def passEvent (self : Session) : Option Session :=
  match self.task, self.callback, self.upcoming with
  | .starting, _, _ => none
  | _, .idle, event :: upcoming =>
    match self.encoder.encode (relabel self.clientStop event) with
    | none => some { self with upcoming := [], completion := .panicked }
    | some (.error _, encoder) =>
      some { self with upcoming, encoder, callback := .failing event }
    | some (.ok messages, encoder) =>
      some { self with upcoming, encoder, callback := .sending event messages }
  | _, _, _ => none

/-- The callback sends the next message, or returns after the last one. -/
def sendNext (self : Session) : Option Session :=
  match self.callback with
  | .sending event (message :: messages) =>
    match self.events.trySend (.event message) with
    | .ok events => some { self with events, callback := .sending event messages }
    | .error _ => some { self with callback := .failing event }
  | .sending event [] =>
    some { self with callback := .idle, observation := self.observation.observe event }
  | _ => none

/-- The callback stores that the session is unhealthy, and returns. -/
def storeUnhealthy (self : Session) : Option Session :=
  match self.callback with
  | .failing event =>
    some { self with
      unhealthy := true, callback := .idle, observation := self.observation.observe event }
  | _ => none

/-- The capture task starts the supervisor. Without an owner there are no events. -/
def startCapture (self : Session) (started : Bool) : Option Session :=
  match self.task with
  | .starting =>
    if started then some { self with task := .polling }
    else
      some { self.offer (.startupFailure .internal .doNotRetry) with
        upcoming := [], task := .releasing }
  | _ => none

/-- The capture task looks at the flags. -/
def poll (self : Session) : Option Session :=
  match self.task with
  | .polling =>
    if self.stop || self.unhealthy || self.shuttingDown then some { self with task := .stopping }
    else some { self with task := .waiting }
  | _ => none

/-- A wait of the capture task finds the owner completed. -/
def complete (self : Session) : Option Session :=
  if self.workerDone && (self.task = .waiting || self.task = .stopping) then
    some { self with ownerCompletion := some self.completion, task := .reporting }
  else none

/-- A wait of the capture task expires. -/
def expire (self : Session) : Option Session :=
  match self.task with
  | .waiting => some { self with task := .polling }
  | .stopping => some { self with task := .reporting }
  | _ => none

/-- The capture task reports a failure of the start. -/
def report (self : Session) : Option Session :=
  match self.task with
  | .reporting =>
    match self.observation.started, self.ownerCompletion with
    | false, some (.failed error) =>
      some { self.offer (.startupFailure error.kind error.retryHint) with task := .finishing }
    | _, _ => some { self with task := .finishing }
  | _ => none

/-- The capture task says that it has finished. -/
def finish (self : Session) : Option Session :=
  match self.task with
  | .finishing => some { self.offer .finished with task := .releasing }
  | _ => none

/-- The capture task drops the supervisor, which waits for the worker, and its end of the queue. -/
def release (self : Session) : Option Session :=
  if self.workerDone && self.task = .releasing then
    some { self with events := self.events.dropSender, task := .returned }
  else none

/-- The session loop looks whether the session is unhealthy. -/
def checkHealth (self : Session) : Option Session :=
  match self.stage with
  | .checkingHealth =>
    if self.unhealthy then
      some { self.write (.text (serviceErrorJson "consumer_too_slow")) with stage := .leaving }
    else some { self with stage := .checkingShutdown }
  | _ => none

/-- The session loop looks whether the service shuts down. -/
def checkShutdown (self : Session) : Option Session :=
  match self.stage with
  | .checkingShutdown =>
    if self.shuttingDown then some { self with stage := .leaving }
    else some { self with stage := .selecting }
  | _ => none

/-- The session loop takes a message from the queue. -/
def receive (self : Session) : Option Session :=
  match self.stage with
  | .selecting =>
    match self.events.recv with
    | none => none
    | some (some (.event event, events)) =>
      some { self.write event.socketMessage with events, stage := .checkingHealth }
    | some (some (.startupFailure kind retry, events)) =>
      some { self.write (.text (startupErrorJson kind retry)) with events, stage := .leaving }
    | some (some (.finished, events)) => some { self with events, stage := .leaving }
    | some none => some { self with stage := .leaving }
  | _ => none

/-- The session loop takes a message of the client. -/
def client (self : Session) (message : ClientMessage) : Option Session :=
  match self.stage with
  | .selecting =>
    match message with
    | .ping payload => some { self.write (.pong payload) with stage := .checkingHealth }
    | .pong => some { self with stage := .checkingHealth }
    | .stopRequest => some { self with clientStop := true, stage := .stopping }
    | .text =>
      some { self.write (.text (serviceErrorJson "invalid_request")) with stage := .leaving }
    | .binary =>
      some { self.write (.text (serviceErrorJson "invalid_request")) with stage := .leaving }
    | .close => some { self with stage := .leaving }
  | _ => none

/-- The session loop stops the capture for the client. -/
def storeStop (self : Session) : Option Session :=
  match self.stage with
  | .stopping => some { self with stop := true, stage := .checkingHealth }
  | _ => none

/-- The session loop stops the capture, and drops its end of the queue. -/
def leave (self : Session) : Option Session :=
  match self.stage with
  | .leaving =>
    some { self with stop := true, events := self.events.dropReceiver, stage := .awaiting }
  | _ => none

/-- The session loop closes the socket, once the capture task has returned. -/
def closeSocket (self : Session) : Option Session :=
  if self.stage = .awaiting ∧ self.task = .returned then
    some { self.write .close with stage := .closed }
  else none

/-- A step of a session. -/
def step (self : Session) : Action → Option Session
  | .event => self.passEvent
  | .send => self.sendNext
  | .fail => self.storeUnhealthy
  | .start started => self.startCapture started
  | .poll => self.poll
  | .complete => self.complete
  | .expire => self.expire
  | .report => self.report
  | .finish => self.finish
  | .release => self.release
  | .checkHealth => self.checkHealth
  | .checkShutdown => self.checkShutdown
  | .receive => self.receive
  | .client message => self.client message
  | .storeStop => self.storeStop
  | .leave => self.leave
  | .close => self.closeSocket
  | .shutDown => some { self with shuttingDown := true }

/-! ## What a step does -/

variable {s s' : Session}

/-- A stage of the loop itself. -/
theorem not_left {stage : SessionStage} (hstage : s.stage = stage) (h : stage.left = false) :
    ¬s.Left := by
  unfold Left
  rw [hstage, h]
  exact Bool.false_ne_true

/-- Before its look at the flags, the session loop takes no message. -/
theorem not_waits (hstage : s.stage = .checkingHealth) : ¬s.Waits := by
  rintro (hselecting | ⟨hchecking, -⟩)
  · cases hstage.symm.trans hselecting
  · cases hstage.symm.trans hchecking

/-- An offer puts the message at the end of the queue, if there is a receiver and room for it. -/
theorem offer_cases (s : Session) (message : SessionMessage) :
    ∃ events, s.offer message = { s with events } ∧ events.receiver = s.events.receiver ∧
      ((s.events.receiver = true ∧ events.queue = s.events.queue ++ [message]) ∨
        (events = s.events ∧
          (s.events.receiver = false ∨ s.events.queue.length = eventQueueCapacity))) := by
  unfold offer
  cases hsend : s.events.trySend message with
  | ok events =>
    obtain ⟨hreceiver, -, hqueue, -, hreceiver'⟩ := Channel.trySend_ok_iff.mp hsend
    exact ⟨events, rfl, hreceiver'.trans hreceiver.symm, .inl ⟨hreceiver, hqueue⟩⟩
  | error error =>
    refine ⟨s.events, rfl, rfl, .inr ⟨rfl, ?_⟩⟩
    cases error with
    | full => exact .inr (Channel.trySend_full_iff.mp hsend).2
    | disconnected => exact .inl (Channel.trySend_disconnected_iff.mp hsend)

/-- What becomes of an event: a panic of the encoder, a failure of it, or messages to send. -/
inductive Passes (s : Session) : Session → Prop
  | panicked {event : StreamEvent} {upcoming : List StreamEvent}
    (hupcoming : s.upcoming = event :: upcoming) (hidle : s.callback = .idle)
    (hencode : s.encoder.encode (relabel s.clientStop event) = none) :
    Passes s { s with upcoming := [], completion := .panicked }
  | failed {event : StreamEvent} {upcoming : List StreamEvent} {error : EncodeError}
    {encoder : SessionEncoder} (hupcoming : s.upcoming = event :: upcoming)
    (hidle : s.callback = .idle)
    (hencode : s.encoder.encode (relabel s.clientStop event) = some (.error error, encoder)) :
    Passes s { s with upcoming, encoder, callback := .failing event }
  | encoded {event : StreamEvent} {upcoming : List StreamEvent} {messages : List EncodedEvent}
    {encoder : SessionEncoder} (hupcoming : s.upcoming = event :: upcoming)
    (hidle : s.callback = .idle)
    (hencode : s.encoder.encode (relabel s.clientStop event) = some (.ok messages, encoder)) :
    Passes s { s with upcoming, encoder, callback := .sending event messages }

/-- What becomes of an event. -/
theorem passes_of_passEvent (h : s.passEvent = some s') : s.task ≠ .starting ∧ Passes s s' := by
  unfold passEvent at h
  split at h
  next => cases h
  next hidle hupcoming hstarted =>
    refine ⟨hstarted, ?_⟩
    split at h
    next hencode =>
      cases h
      exact .panicked hupcoming hidle hencode
    next hencode =>
      cases h
      exact .failed hupcoming hidle hencode
    next hencode =>
      cases h
      exact .encoded hupcoming hidle hencode
  next => cases h

/-- What becomes of a message of the callback: it is queued, or refused, or there is none left. -/
inductive Sends (s : Session) : Session → Prop
  | queued {event : StreamEvent} {message : EncodedEvent} {messages : List EncodedEvent}
    {events : Channel SessionMessage eventQueueCapacity}
    (hcallback : s.callback = .sending event (message :: messages))
    (hreceiver : s.events.receiver = true) (hreceiver' : events.receiver = true)
    (hsender : events.sender = s.events.sender)
    (hqueue : events.queue = s.events.queue ++ [.event message]) :
    Sends s { s with events, callback := .sending event messages }
  | refused {event : StreamEvent} {message : EncodedEvent} {messages : List EncodedEvent}
    (hcallback : s.callback = .sending event (message :: messages))
    (hevents : s.events.receiver = false ∨ s.events.queue.length = eventQueueCapacity) :
    Sends s { s with callback := .failing event }
  | returned {event : StreamEvent} (hcallback : s.callback = .sending event []) :
    Sends s { s with callback := .idle, observation := s.observation.observe event }

/-- What becomes of a message of the callback. -/
theorem sends_of_sendNext (h : s.sendNext = some s') : Sends s s' := by
  unfold sendNext at h
  split at h
  next event message messages hcallback =>
    split at h
    next events hsend =>
      cases h
      obtain ⟨hreceiver, -, hqueue, hsender, hreceiver'⟩ := Channel.trySend_ok_iff.mp hsend
      exact .queued hcallback hreceiver hreceiver' hsender hqueue
    next error hsend =>
      cases h
      refine .refused hcallback ?_
      cases error with
      | full => exact .inr (Channel.trySend_full_iff.mp hsend).2
      | disconnected => exact .inl (Channel.trySend_disconnected_iff.mp hsend)
  next event hcallback =>
    cases h
    exact .returned hcallback
  next => cases h

/-- The callback stores that the session is unhealthy. -/
theorem storeUnhealthy_eq_some (h : s.storeUnhealthy = some s') : ∃ event,
    s.callback = .failing event ∧ s' = { s with
      unhealthy := true, callback := .idle, observation := s.observation.observe event } := by
  unfold storeUnhealthy at h
  split at h
  next event hcallback =>
    cases h
    exact ⟨event, hcallback, rfl⟩
  next => cases h

/-- What the session loop takes from the queue: an event, a failure of the start, the end of the
capture, or that the capture task has returned. -/
inductive Receives (s : Session) : Session → Prop
  | event {event : EncodedEvent} {events : Channel SessionMessage eventQueueCapacity}
    (hqueue : s.events.queue = .event event :: events.queue)
    (hreceiver : events.receiver = s.events.receiver)
    (hsender : events.sender = s.events.sender) :
    Receives s { s.write event.socketMessage with events, stage := .checkingHealth }
  | startupFailure {kind : ErrorKind} {retry : RetryHint}
    {events : Channel SessionMessage eventQueueCapacity}
    (hqueue : s.events.queue = .startupFailure kind retry :: events.queue) :
    Receives s { s.write (.text (startupErrorJson kind retry)) with events, stage := .leaving }
  | finished {events : Channel SessionMessage eventQueueCapacity}
    (hqueue : s.events.queue = .finished :: events.queue) :
    Receives s { s with events, stage := .leaving }
  | disconnected (hqueue : s.events.queue = []) (hsender : s.events.sender = false) :
    Receives s { s with stage := .leaving }

/-- What the session loop takes from the queue. -/
theorem receives_of_receive (h : s.receive = some s') : s.stage = .selecting ∧ Receives s s' := by
  unfold receive at h
  split at h
  next hstage =>
    refine ⟨hstage, ?_⟩
    split at h
    next => cases h
    next hrecv =>
      cases h
      obtain ⟨hqueue, hsender, hreceiver⟩ :=
        Channel.tryRecv_ok_iff.mp (Channel.recv_eq_some_some.mp hrecv)
      exact .event hqueue hreceiver hsender
    next hrecv =>
      cases h
      obtain ⟨hqueue, -⟩ := Channel.tryRecv_ok_iff.mp (Channel.recv_eq_some_some.mp hrecv)
      exact .startupFailure hqueue
    next hrecv =>
      cases h
      obtain ⟨hqueue, -⟩ := Channel.tryRecv_ok_iff.mp (Channel.recv_eq_some_some.mp hrecv)
      exact .finished hqueue
    next hrecv =>
      cases h
      obtain ⟨hqueue, hsender⟩ := Channel.recv_eq_some_none.mp hrecv
      exact .disconnected hqueue hsender
  next => cases h

/-- What the steps of the capture task and of the service leave as it is: the callback and the
session loop, and what was queued, behind which no event comes. -/
structure Background (s s' : Session) : Prop where
  unhealthy : s'.unhealthy = s.unhealthy
  shuttingDown : s.shuttingDown = true → s'.shuttingDown = true
  callback : s'.callback = s.callback
  encoder : s'.encoder = s.encoder
  observation : s'.observation = s.observation
  stage : s'.stage = s.stage
  written : s'.written = s.written
  receiver : s'.events.receiver = s.events.receiver
  queue : ∃ later, s'.events.queue = s.events.queue ++ later ∧ ∀ m ∈ later, ∀ e, m ≠ .event e

/-- An offer of a message that is not an event. -/
theorem background_offer (s : Session) (message : SessionMessage) (h : ∀ e, message ≠ .event e) :
    Background s (s.offer message) := by
  obtain ⟨events, heq, hreceiver, hqueue⟩ := offer_cases s message
  rw [heq]
  refine ⟨rfl, id, rfl, rfl, rfl, rfl, rfl, hreceiver, ?_⟩
  rcases hqueue with ⟨-, hqueue⟩ | ⟨rfl, -⟩
  · exact ⟨[message], hqueue, fun m hm => List.mem_singleton.mp hm ▸ h⟩
  · exact ⟨[], (List.append_nil _).symm, fun m hm => absurd hm List.not_mem_nil⟩

/-- Steps of which the session loop and the callback see nothing. -/
theorem background_refl (s : Session) : Background s s :=
  ⟨rfl, id, rfl, rfl, rfl, rfl, rfl, rfl, [], (List.append_nil _).symm,
    fun _ hm => absurd hm List.not_mem_nil⟩

/-- The start of the supervisor, which may fail. -/
theorem startCapture_eq_some {started : Bool} (h : s.startCapture started = some s') :
    s.task = .starting ∧ (s' = { s with task := .polling } ∨
      s' = { s.offer (.startupFailure .internal .doNotRetry) with
        upcoming := [], task := .releasing }) := by
  unfold startCapture at h
  split at h
  next htask =>
    refine ⟨htask, ?_⟩
    split_ifs at h
    · cases h
      exact .inl rfl
    · cases h
      exact .inr rfl
  next => cases h

/-- A look at the flags. -/
theorem poll_eq_some (h : s.poll = some s') : s.task = .polling ∧
    (s' = { s with task := .stopping } ∨ s' = { s with task := .waiting }) := by
  unfold poll at h
  split at h
  next htask =>
    refine ⟨htask, ?_⟩
    split_ifs at h
    · cases h
      exact .inl rfl
    · cases h
      exact .inr rfl
  next => cases h

/-- A wait finds the owner completed once its worker has returned. -/
theorem complete_eq_some (h : s.complete = some s') :
    s.workerDone = true ∧ (s.task = .waiting ∨ s.task = .stopping) ∧
      s' = { s with ownerCompletion := some s.completion, task := .reporting } := by
  unfold complete at h
  split_ifs at h with hdone
  cases h
  simp only [Bool.and_eq_true, Bool.or_eq_true, decide_eq_true_eq] at hdone
  exact ⟨hdone.1, hdone.2, rfl⟩

/-- What expires is the wait for an event, after which the connection is polled, or the wait of the
stop, after which the session reports. -/
theorem expire_eq_some (h : s.expire = some s') :
    (s.task = .waiting ∧ s' = { s with task := .polling }) ∨
      (s.task = .stopping ∧ s' = { s with task := .reporting }) := by
  unfold expire at h
  split at h
  next htask =>
    cases h
    exact .inl ⟨htask, rfl⟩
  next htask =>
    cases h
    exact .inr ⟨htask, rfl⟩
  next => cases h

/-- A failure of the start is reported where no stream started and the owner failed. -/
theorem report_eq_some (h : s.report = some s') : s.task = .reporting ∧
    ((∃ error, s.observation.started = false ∧ s.ownerCompletion = some (.failed error) ∧
      s' = { s.offer (.startupFailure error.kind error.retryHint) with task := .finishing }) ∨
      s' = { s with task := .finishing }) := by
  unfold report at h
  split at h
  next htask =>
    refine ⟨htask, ?_⟩
    split at h
    next error hstarted hcompletion =>
      cases h
      exact .inl ⟨error, hstarted, hcompletion, rfl⟩
    next =>
      cases h
      exact .inr rfl
  next => cases h

/-- The capture task says that it has finished. -/
theorem finish_eq_some (h : s.finish = some s') :
    s.task = .finishing ∧ s' = { s.offer .finished with task := .releasing } := by
  unfold finish at h
  split at h
  next htask =>
    cases h
    exact ⟨htask, rfl⟩
  next => cases h

/-- The capture task returns once the worker has. -/
theorem release_eq_some (h : s.release = some s') : s.workerDone = true ∧ s.task = .releasing ∧
    s' = { s with events := s.events.dropSender, task := .returned } := by
  unfold release at h
  split_ifs at h with hdone
  cases h
  simp only [Bool.and_eq_true, decide_eq_true_eq] at hdone
  exact ⟨hdone.1, hdone.2, rfl⟩

/-- The worker has returned. -/
theorem workerDone_iff : s.workerDone = true ↔ s.upcoming = [] ∧ s.callback = .idle := by
  unfold workerDone
  constructor
  · intro h
    split at h
    next hupcoming hcallback => exact ⟨hupcoming, hcallback⟩
    next => cases h
  · rintro ⟨hupcoming, hcallback⟩
    rw [hupcoming, hcallback]

/-- An event at the front of the queue is received. -/
theorem exists_receive {event : EncodedEvent} {queue : List SessionMessage}
    (hstage : s.stage = .selecting) (hqueue : s.events.queue = .event event :: queue) :
    ∃ s', s.receive = some s' ∧ s'.written = s.written ++ [event.socketMessage] := by
  obtain ⟨events, htryRecv, -⟩ := Channel.exists_tryRecv hqueue
  have hrecv := Channel.recv_eq_some_some.mpr htryRecv
  refine ⟨{ s.write event.socketMessage with events, stage := .checkingHealth }, ?_, rfl⟩
  unfold receive
  rw [hstage, hrecv]

/-- The capture task and the service work in the background. -/
theorem background_of_step {a : Action} (ha : a.party = .captureTask ∨ a.party = .service)
    (h : s.step a = some s') : Background s s' := by
  have hsame := background_refl s
  cases a with
  | start started =>
    obtain ⟨-, rfl | rfl⟩ := startCapture_eq_some h
    · exact { hsame with }
    · have hoffer := background_offer s (.startupFailure .internal .doNotRetry) fun _ => by rintro ⟨⟩
      exact { hoffer with }
  | poll =>
    obtain ⟨-, rfl | rfl⟩ := poll_eq_some h
    · exact { hsame with }
    · exact { hsame with }
  | complete =>
    obtain ⟨-, -, rfl⟩ := complete_eq_some h
    exact { hsame with }
  | expire =>
    rcases expire_eq_some h with ⟨-, rfl⟩ | ⟨-, rfl⟩
    · exact { hsame with }
    · exact { hsame with }
  | report =>
    obtain ⟨-, ⟨error, -, -, rfl⟩ | rfl⟩ := report_eq_some h
    · have hoffer := background_offer s (.startupFailure error.kind error.retryHint) fun _ => by rintro ⟨⟩
      exact { hoffer with }
    · exact { hsame with }
  | finish =>
    obtain ⟨-, rfl⟩ := finish_eq_some h
    have hoffer := background_offer s .finished fun _ => by rintro ⟨⟩
    exact { hoffer with }
  | release =>
    obtain ⟨-, -, rfl⟩ := release_eq_some h
    exact { hsame with }
  | shutDown =>
    cases h
    exact { hsame with shuttingDown := fun _ => rfl }
  | event | send | fail => cases ha <;> contradiction
  | checkHealth | checkShutdown | receive | client _ | storeStop | leave | close =>
    cases ha <;> contradiction

/-- The session loop leaves where the session is unhealthy, and goes on where it is not. -/
theorem checkHealth_eq_some (h : s.checkHealth = some s') : s.stage = .checkingHealth ∧
    ((s.unhealthy = true ∧ s' = { s.write (.text (serviceErrorJson "consumer_too_slow")) with
        stage := .leaving }) ∨
      (s.unhealthy = false ∧ s' = { s with stage := .checkingShutdown })) := by
  unfold checkHealth at h
  split at h
  next hstage =>
    refine ⟨hstage, ?_⟩
    split_ifs at h with hunhealthy
    · cases h
      exact .inl ⟨hunhealthy, rfl⟩
    · cases h
      exact .inr ⟨Bool.not_eq_true _ ▸ hunhealthy, rfl⟩
  next => cases h

/-- The session loop leaves where the service shuts down, and waits for messages where it does
not. -/
theorem checkShutdown_eq_some (h : s.checkShutdown = some s') : s.stage = .checkingShutdown ∧
    ((s.shuttingDown = true ∧ s' = { s with stage := .leaving }) ∨
      (s.shuttingDown = false ∧ s' = { s with stage := .selecting })) := by
  unfold checkShutdown at h
  split at h
  next hstage =>
    refine ⟨hstage, ?_⟩
    split_ifs at h with hshuttingDown
    · cases h
      exact .inl ⟨hshuttingDown, rfl⟩
    · cases h
      exact .inr ⟨Bool.not_eq_true _ ▸ hshuttingDown, rfl⟩
  next => cases h

/-- A message of the client is answered or not, but not with binary messages. -/
theorem client_eq_some {message : ClientMessage} (h : s.client message = some s') :
    s.stage = .selecting ∧ ∃ clientStop stage answers,
      s' = { s with clientStop, stage, written := s.written ++ answers } ∧
        (stage = .checkingHealth ∨ stage = .stopping ∨ stage = .leaving) ∧
        ∀ answer ∈ answers, ∀ bytes, answer ≠ .binary bytes := by
  unfold client at h
  split at h
  next hstage =>
    refine ⟨hstage, ?_⟩
    have hnone : s.written = s.written ++ [] := (List.append_nil _).symm
    cases message with
    | ping payload =>
      cases h
      refine ⟨s.clientStop, .checkingHealth, [.pong payload], rfl, .inl rfl, ?_⟩
      intro answer hanswer bytes
      rw [List.mem_singleton.mp hanswer]
      rintro ⟨⟩
    | pong =>
      cases h
      refine ⟨s.clientStop, .checkingHealth, [], ?_, .inl rfl, ?_⟩
      · rw [← hnone]
      · exact fun _ hanswer => absurd hanswer List.not_mem_nil
    | stopRequest =>
      cases h
      refine ⟨true, .stopping, [], ?_, .inr (.inl rfl), ?_⟩
      · rw [← hnone]
      · exact fun _ hanswer => absurd hanswer List.not_mem_nil
    | text | binary =>
      cases h
      refine ⟨s.clientStop, .leaving, [.text (serviceErrorJson "invalid_request")], rfl,
        .inr (.inr rfl), ?_⟩
      intro answer hanswer bytes
      rw [List.mem_singleton.mp hanswer]
      rintro ⟨⟩
    | close =>
      cases h
      refine ⟨s.clientStop, .leaving, [], ?_, .inr (.inr rfl), ?_⟩
      · rw [← hnone]
      · exact fun _ hanswer => absurd hanswer List.not_mem_nil
  next => cases h

/-- A stop request of the client is noted first. -/
theorem stopRequest_eq_some (h : s.client .stopRequest = some s') :
    s' = { s with clientStop := true, stage := .stopping } := by
  unfold client at h
  split at h
  next =>
    cases h
    rfl
  next => cases h

/-- The client's stop request goes on to the capture, and then the session loop goes on. -/
theorem storeStop_eq_some (h : s.storeStop = some s') :
    s.stage = .stopping ∧ s' = { s with stop := true, stage := .checkingHealth } := by
  unfold storeStop at h
  split at h
  next hstage =>
    cases h
    exact ⟨hstage, rfl⟩
  next => cases h

/-- After the loop, the queue is dropped. -/
theorem leave_eq_some (h : s.leave = some s') : s.stage = .leaving ∧
    s' = { s with stop := true, events := s.events.dropReceiver, stage := .awaiting } := by
  unfold leave at h
  split at h
  next hstage =>
    cases h
    exact ⟨hstage, rfl⟩
  next => cases h

/-- The close is written last. -/
theorem closeSocket_eq_some (h : s.closeSocket = some s') :
    s.stage = .awaiting ∧ s.task = .returned ∧ s' = { s.write .close with stage := .closed } := by
  unfold closeSocket at h
  split_ifs at h with hstage
  cases h
  exact ⟨hstage.1, hstage.2, rfl⟩

/-- The session loop listens to the queue until it has left. -/
def Listens (s : Session) : Prop := s.Left ∨ s.events.receiver = true

/-- Every step keeps the session loop listening until it has left. -/
theorem listens_of_step {a : Action} (h : s.step a = some s') (hs : s.Listens) : s'.Listens := by
  cases hparty : a.party with
  | worker =>
    cases a with
    | event =>
      cases (passes_of_passEvent h).2 with
      | panicked hupcoming hidle hencode => exact hs
      | failed hupcoming hidle hencode => exact hs
      | encoded hupcoming hidle hencode => exact hs
    | send =>
      -- A message that is queued was sent to a receiver that is there.
      cases sends_of_sendNext h with
      | queued hcallback hreceiver hreceiver' hsender hqueue => exact .inr hreceiver'
      | refused hcallback hevents => exact hs
      | returned hcallback => exact hs
    | fail =>
      obtain ⟨event, hcallback, rfl⟩ := storeUnhealthy_eq_some h
      exact hs
    | start _ | poll | complete | expire | report | finish | release => contradiction
    | checkHealth | checkShutdown | receive | client _ | storeStop | leave | close | shutDown =>
      contradiction
  | captureTask =>
    have hbackground := background_of_step (.inl hparty) h
    unfold Listens Left
    rw [hbackground.stage, hbackground.receiver]
    exact hs
  | service =>
    have hbackground := background_of_step (.inr hparty) h
    unfold Listens Left
    rw [hbackground.stage, hbackground.receiver]
    exact hs
  | sessionLoop =>
    -- In the loop the session still has its end of the queue.
    have hlistens {stage : SessionStage} (hstage : s.stage = stage) (hleft : stage.left = false) :
        s.events.receiver = true := hs.resolve_left (not_left hstage hleft)
    cases a with
    | checkHealth =>
      obtain ⟨hstage, ⟨-, rfl⟩ | ⟨-, rfl⟩⟩ := checkHealth_eq_some h
      · exact .inl rfl
      · exact .inr (hlistens hstage rfl)
    | checkShutdown =>
      obtain ⟨hstage, ⟨-, rfl⟩ | ⟨-, rfl⟩⟩ := checkShutdown_eq_some h
      · exact .inl rfl
      · exact .inr (hlistens hstage rfl)
    | receive =>
      obtain ⟨hstage, hreceives⟩ := receives_of_receive h
      cases hreceives with
      | event hqueue hreceiver hsender => exact .inr (hreceiver.trans (hlistens hstage rfl))
      | startupFailure hqueue => exact .inl rfl
      | finished hqueue => exact .inl rfl
      | disconnected hqueue hsender => exact .inl rfl
    | client message =>
      obtain ⟨hstage, clientStop, stage, answers, rfl, -⟩ := client_eq_some h
      exact .inr (hlistens hstage rfl)
    | storeStop =>
      obtain ⟨hstage, rfl⟩ := storeStop_eq_some h
      exact .inr (hlistens hstage rfl)
    | leave =>
      obtain ⟨-, rfl⟩ := leave_eq_some h
      exact .inl rfl
    | close =>
      obtain ⟨-, -, rfl⟩ := closeSocket_eq_some h
      exact .inl rfl
    | event | send | fail | shutDown => contradiction
    | start _ | poll | complete | expire | report | finish | release => contradiction

/-- The session loop does not touch the callback. -/
theorem callback_sessionLoop {a : Action} (ha : a.party = .sessionLoop) (h : s.step a = some s') :
    s'.callback = s.callback ∧ s'.encoder = s.encoder := by
  cases a with
  | checkHealth =>
    obtain ⟨-, ⟨-, rfl⟩ | ⟨-, rfl⟩⟩ := checkHealth_eq_some h
    · exact ⟨rfl, rfl⟩
    · exact ⟨rfl, rfl⟩
  | checkShutdown =>
    obtain ⟨-, ⟨-, rfl⟩ | ⟨-, rfl⟩⟩ := checkShutdown_eq_some h
    · exact ⟨rfl, rfl⟩
    · exact ⟨rfl, rfl⟩
  | receive =>
    obtain ⟨-, hreceives⟩ := receives_of_receive h
    cases hreceives with
    | event hqueue hreceiver hsender => exact ⟨rfl, rfl⟩
    | startupFailure hqueue => exact ⟨rfl, rfl⟩
    | finished hqueue => exact ⟨rfl, rfl⟩
    | disconnected hqueue hsender => exact ⟨rfl, rfl⟩
  | client message =>
    obtain ⟨-, clientStop, stage, answers, rfl, -⟩ := client_eq_some h
    exact ⟨rfl, rfl⟩
  | storeStop =>
    obtain ⟨-, rfl⟩ := storeStop_eq_some h
    exact ⟨rfl, rfl⟩
  | leave =>
    obtain ⟨-, rfl⟩ := leave_eq_some h
    exact ⟨rfl, rfl⟩
  | close =>
    obtain ⟨-, -, rfl⟩ := closeSocket_eq_some h
    exact ⟨rfl, rfl⟩
  | event | send | fail | shutDown => contradiction
  | start _ | poll | complete | expire | report | finish | release => contradiction

end Session

/-- The interleavings of a session. -/
def sessionSystem : TransitionSystem Session Session.Action := .ofStep Session.step

end ResonanceSignal
