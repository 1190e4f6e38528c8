import ResonanceSignal.Lib.Channel
import ResonanceSignal.Lib.Transition

/-!
# The managed service

`ManagedService` of `transport.rs`: a service on a worker thread, which its owner starts, asks for
its state, and shuts down, any number of times, until a shutdown succeeds. The worker opens the
listener and says so, serves until it is notified, waits for its connections to end, records how it
ended, and says that it has stopped. The two meet in a state behind a mutex, a flag, a notification
that keeps one permit, and two channels of one message. A step is what one of them does between two
points at which the other one can see it.

`Coherent` says what each may rely on while the other is where it is. From it follow that the state
never goes back (`state_monotone`), what the owner knows from each answer (`answers_of_run`), and
that no notification is lost: whatever happened before, a shutdown can always come to its end unless
the worker has panicked (`can_shut_down`).
-/

namespace ResonanceSignal

/-! ## The state -/

/-- `ManagedServiceState` -/
inductive ManagedServiceState
  | starting
  | running
  | stopping
  | stopped
  | failed (message : String)
deriving DecidableEq

/-- Why a wait for a message ends without one. -/
inductive RecvTimeoutError
  | timeout
  | disconnected
deriving DecidableEq

/-- The text of the error. -/
def RecvTimeoutError.text : RecvTimeoutError → String
  | timeout => "timed out waiting on channel"
  | disconnected => "channel is empty and sending half is closed"

/-- Why the listener does not open. -/
inductive ListenError
  | bind (error : String)
  | nonLoopback
  | inspect (error : String)

/-- The text of the error. -/
def ListenError.text (listen : String) : ListenError → String
  | bind error => "failed to bind " ++ listen ++ ": " ++ error
  | nonLoopback => "listener resolved to a non-loopback address"
  | inspect error => "failed to inspect listener address: " ++ error

/-- Where the worker is. -/
inductive ServiceWorker
  /-- It creates its runtime and opens the listener. -/
  | opening
  /-- It is about to say why the listener did not open. -/
  | refusing (message : String)
  /-- It is about to say that the service runs. -/
  | announcing
  | serving
  /-- It was notified, and is about to store that it shuts down. -/
  | notified
  /-- It waits for its connections to end. -/
  | draining
  /-- It is about to record how it ended. -/
  | recording (result : Except String Unit)
  /-- It is about to say that it has stopped. -/
  | signalling
  | returning
  | exited
  | panicked

/-- The worker is in `run_managed`. -/
def ServiceWorker.manages : ServiceWorker → Bool
  | opening | refusing _ | announcing | serving | notified | draining => true
  | recording _ | signalling | returning | exited | panicked => false

/-- Who shuts the service down. -/
inductive StopCaller
  | shutdown
  | drop
deriving DecidableEq

/-- Where the owner is. -/
inductive ServiceOwner
  /-- It waits for the worker to say that the service runs. -/
  | starting
  /-- The start has waited in vain, and is about to store that the service shuts down. -/
  | cancelling (error : RecvTimeoutError)
  /-- The start has waited in vain, and is about to notify the worker. -/
  | withdrawing (error : RecvTimeoutError)
  /-- The start has failed, and joins the worker. -/
  | abandoning (message : String)
  /-- The start has failed. -/
  | unstarted
  /-- The service is in hand. -/
  | idle
  /-- It is about to store that the service shuts down. -/
  | storing (caller : StopCaller)
  /-- It is about to notify the worker. -/
  | notifying (caller : StopCaller)
  /-- It waits for the worker to say that it has stopped. -/
  | waiting (caller : StopCaller)
  /-- It joins the worker. -/
  | joining (caller : StopCaller)
  /-- It is about to look how the worker ended. -/
  | reporting (caller : StopCaller)
  | dropped
deriving DecidableEq

/-- A managed service, with its owner and its worker. -/
structure ManagedService where
  /-- The state behind the mutex. -/
  state : ManagedServiceState
  /-- `shutting_down` -/
  shuttingDown : Bool
  /-- The permit of `shutdown_notify`. -/
  permit : Bool
  /-- The channel for the start. -/
  startedRx : Channel (Except String Unit) 1
  /-- The channel for the end. -/
  stoppedRx : Channel Unit 1
  /-- Whether the owner holds the handle of the worker. -/
  worker : Bool
  /-- The worker. -/
  thread : ServiceWorker
  /-- The owner. -/
  owner : ServiceOwner

/-- The steps of a worker. -/
inductive ServiceWorkerAction
  /-- The runtime is not created. -/
  | runtimeFails (error : String)
  /-- The listener does not open. -/
  | listenFails (listen : String) (error : ListenError)
  /-- The listener is open: the service runs. -/
  | listens
  /-- It says how the start went. -/
  | announce
  /-- It takes the permit of the notification. -/
  | take
  /-- It stores that the service shuts down. -/
  | store
  /-- Serving fails. -/
  | serveFails (error : String)
  /-- The last connection has ended. -/
  | drain
  /-- It records how it ended. -/
  | record
  /-- It says that it has stopped. -/
  | signal
  | exit
  | panic

/-- The calls of an owner, and what they do between two points at which the worker can see it. -/
inductive ServiceOwnerAction
  /-- The wait for the start ends. -/
  | received (expired : Bool)
  /-- The worker is joined after a start that failed. -/
  | joinUnstarted
  | shutdown
  | drop
  | store
  | notify
  /-- The wait for the end ends. -/
  | stopped (expired : Bool)
  | join
  | report

/-- What a step shows: the result of a call. -/
inductive ServiceOutput
  | silent
  | started (result : Except String Unit)
  | shutDown (result : Except String Unit)

namespace ManagedService

/-- `start`, from the spawn of the worker on. -/
def start : ManagedService where
  state := .starting
  shuttingDown := false
  permit := false
  startedRx := .empty
  stoppedRx := .empty
  worker := true
  thread := .opening
  owner := .starting

/-! ## Steps of the worker -/

/-- `run_managed` returns, and its end of the first channel is dropped. -/
def returned (self : ManagedService) (result : Except String Unit) : ManagedService :=
  { self with thread := .recording result, startedRx := self.startedRx.dropSender }

/-- The worker has nothing more to say, and its ends of the channels are dropped. -/
def gone (self : ManagedService) (thread : ServiceWorker) : ManagedService :=
  { self with
    thread := thread
    startedRx := self.startedRx.dropSender, stoppedRx := self.stoppedRx.dropSender }

/-- A message on a channel, if there is still someone who listens: it does not matter whether there
is. -/
def sent {α : Type} (channel : Channel α 1) (message : α) : Option (Channel α 1) :=
  (channel.send message).map fun sent => sent.getD channel

/-- A step of the worker. -/
def workerStep (self : ManagedService) : ServiceWorkerAction → Option ManagedService
  | .runtimeFails error =>
    match self.thread with
    | .opening => some (self.returned (.error ("failed to create service runtime: " ++ error)))
    | _ => none
  | .listenFails listen error =>
    match self.thread with
    | .opening => some { self with thread := .refusing (error.text listen) }
    | _ => none
  | .listens =>
    match self.thread with
    | .opening => some { self with state := .running, thread := .announcing }
    | _ => none
  | .announce =>
    match self.thread with
    | .refusing message =>
      (sent self.startedRx (.error message)).map fun startedRx =>
        { self with startedRx }.returned (.error message)
    | .announcing =>
      (sent self.startedRx (.ok ())).map fun startedRx =>
        { self with startedRx, thread := .serving }
    | _ => none
  | .take =>
    match self.thread, self.permit with
    | .serving, true => some { self with permit := false, thread := .notified }
    | _, _ => none
  | .store =>
    match self.thread with
    | .notified => some { self with shuttingDown := true, thread := .draining }
    | _ => none
  | .serveFails error =>
    match self.thread with
    | .serving | .notified | .draining =>
      some (self.returned (.error ("consumer service failed: " ++ error)))
    | _ => none
  | .drain =>
    match self.thread with
    | .draining => some (self.returned (.ok ()))
    | _ => none
  | .record =>
    match self.thread with
    | .recording (.error message) =>
      some { self with state := .failed message, thread := .signalling }
    | .recording (.ok ()) =>
      match self.state with
      | .failed _ => some { self with thread := .signalling }
      | _ => some { self with state := .stopped, thread := .signalling }
    | _ => none
  | .signal =>
    match self.thread with
    | .signalling =>
      (sent self.stoppedRx ()).map fun stoppedRx => { self with stoppedRx, thread := .returning }
    | _ => none
  | .exit =>
    match self.thread with
    | .returning => some (self.gone .exited)
    | _ => none
  | .panic => if self.thread.manages then some (self.gone .panicked) else none

/-! ## Steps of the owner -/

/-- A call returns. Of a drop there is nothing to see. -/
def answer (self : ManagedService) (caller : StopCaller) (result : Except String Unit) :
    ServiceOutput × ManagedService :=
  match caller with
  | .drop => (.silent, { self with owner := .dropped })
  | .shutdown => (.shutDown result, { self with owner := .idle })

/-- `shutdown`, up to where its request is stored. -/
def beginShutdown (self : ManagedService) (caller : StopCaller) : ServiceOutput × ManagedService :=
  if self.worker then
    let state :=
      match self.state with
      | .running | .starting => .stopping
      | state => state
    (.silent, { self with state, owner := .storing caller })
  else self.answer caller (.ok ())

/-- The worker has ended. -/
def ended (self : ManagedService) : Bool :=
  match self.thread with
  | .exited | .panicked => true
  | _ => false

/-- The wait for the start ends. -/
def received (self : ManagedService) (expired : Bool) : Option (ServiceOutput × ManagedService) :=
  match self.owner with
  | .starting =>
    match self.startedRx.tryRecv with
    | .ok (.ok (), startedRx) =>
      some (.started (.ok ()), { self with startedRx := startedRx.dropReceiver, owner := .idle })
    | .ok (.error message, startedRx) =>
      some (.silent, { self with startedRx, owner := .abandoning message })
    | .error .empty =>
      if expired then some (.silent, { self with owner := .cancelling .timeout }) else none
    | .error .disconnected => some (.silent, { self with owner := .cancelling .disconnected })
  | _ => none

/-- The worker is joined after a start that failed. -/
def joinUnstarted (self : ManagedService) : Option (ServiceOutput × ManagedService) :=
  match self.owner with
  | .abandoning message =>
    if self.ended then
      some (.started (.error message),
        { self with
          worker := false, owner := .unstarted
          startedRx := self.startedRx.dropReceiver, stoppedRx := self.stoppedRx.dropReceiver })
    else none
  | _ => none

/-- That the service shuts down is stored. -/
def store (self : ManagedService) : Option (ServiceOutput × ManagedService) :=
  match self.owner with
  | .cancelling error =>
    some (.silent, { self with shuttingDown := true, owner := .withdrawing error })
  | .storing caller =>
    some (.silent, { self with shuttingDown := true, owner := .notifying caller })
  | _ => none

/-- The worker is notified. -/
def notify (self : ManagedService) : Option (ServiceOutput × ManagedService) :=
  match self.owner with
  | .withdrawing error =>
    some (.silent, { self with
      permit := true
      owner := .abandoning ("service startup did not complete within 5 seconds: " ++ error.text) })
  | .notifying caller => some (.silent, { self with permit := true, owner := .waiting caller })
  | _ => none

/-- Why the owner did not see the worker stop. -/
def stopExpired (error : RecvTimeoutError) : String :=
  "service did not stop within 5 seconds: " ++ error.text

/-- The wait for the end ends. -/
def stopped (self : ManagedService) (expired : Bool) : Option (ServiceOutput × ManagedService) :=
  match self.owner with
  | .waiting caller =>
    match self.stoppedRx.tryRecv with
    | .ok ((), stoppedRx) =>
      some (.silent, { self with stoppedRx, worker := false, owner := .joining caller })
    | .error .empty =>
      if expired then some (self.answer caller (.error (stopExpired .timeout))) else none
    | .error .disconnected => some (self.answer caller (.error (stopExpired .disconnected)))
  | _ => none

/-- The worker is joined. -/
def join (self : ManagedService) : Option (ServiceOutput × ManagedService) :=
  match self.owner, self.thread with
  | .joining caller, .exited => some (.silent, { self with owner := .reporting caller })
  | .joining caller, .panicked =>
    some (self.answer caller (.error "service worker panicked during shutdown"))
  | _, _ => none

/-- The owner looks how the worker ended. -/
def report (self : ManagedService) : Option (ServiceOutput × ManagedService) :=
  match self.owner with
  | .reporting caller =>
    match self.state with
    | .failed message => some (self.answer caller (.error message))
    | _ => some (self.answer caller (.ok ()))
  | _ => none

/-- A step of the owner. -/
def ownerStep (self : ManagedService) :
    ServiceOwnerAction → Option (ServiceOutput × ManagedService)
  | .received expired => self.received expired
  | .joinUnstarted => self.joinUnstarted
  | .shutdown => if self.owner = .idle then some (self.beginShutdown .shutdown) else none
  | .drop => if self.owner = .idle then some (self.beginShutdown .drop) else none
  | .store => self.store
  | .notify => self.notify
  | .stopped expired => self.stopped expired
  | .join => self.join
  | .report => self.report

/-- The steps of a managed service. -/
inductive Action
  | worker (action : ServiceWorkerAction)
  | owner (action : ServiceOwnerAction)

/-- A step of a managed service. -/
def step (self : ManagedService) : Action → Option (ServiceOutput × ManagedService)
  | .worker action => (self.workerStep action).map fun self => (.silent, self)
  | .owner action => self.ownerStep action

/-- The interleavings of a managed service. -/
def system : TransitionSystem ManagedService (Action × ServiceOutput) := .ofFn step

/-! ## What a step of the worker does -/

variable {s s' : ManagedService}

/-- A message goes to a channel that has room for it, or to nobody. -/
theorem sent_eq_some {α : Type} {channel channel' : Channel α 1} {message : α}
    (h : sent channel message = some channel') : channel'.sender = channel.sender ∧
      channel'.receiver = channel.receiver ∧
      (channel.receiver = true ∧ channel'.queue = channel.queue ++ [message] ∨
        channel.receiver = false ∧ channel'.queue = channel.queue) := by
  obtain ⟨result, hsend, rfl⟩ := Option.map_eq_some_iff.mp h
  cases result with
  | none =>
    have hreceiver := Channel.send_eq_some_none.mp hsend
    exact ⟨rfl, rfl, .inr ⟨hreceiver, rfl⟩⟩
  | some channel'' =>
    obtain ⟨hreceiver, -, hqueue, hsender, hreceiver'⟩ :=
      Channel.trySend_ok_iff.mp (Channel.send_eq_some_some.mp hsend)
    exact ⟨hsender, hreceiver'.trans hreceiver.symm, .inl ⟨hreceiver, hqueue⟩⟩

end ManagedService

/-- Nothing follows the state. -/
def ManagedServiceState.isFinal : ManagedServiceState → Bool
  | starting | running | stopping => false
  | stopped | failed _ => true

/-- How far the state is. -/
def ManagedServiceState.rank : ManagedServiceState → ℕ
  | starting => 0
  | running => 1
  | stopping => 2
  | stopped | failed _ => 3

/-- The worker is past the start. -/
def ServiceWorker.announced : ServiceWorker → Bool
  | opening | refusing _ | announcing => false
  | serving | notified | draining | recording _ | signalling | returning | exited | panicked => true

/-- The worker has said that it has stopped. -/
def ServiceWorker.signalled : ServiceWorker → Bool
  | returning | exited => true
  | opening | refusing _ | announcing | serving | notified | draining | recording _ => false
  | signalling | panicked => false

/-- The states while the worker is where it is. -/
def ServiceWorker.Allows (state : ManagedServiceState) : ServiceWorker → Prop
  | opening | refusing _ => state = .starting
  | announcing => state = .running
  | serving | notified | draining => state = .running ∨ state = .stopping
  | recording _ | panicked => state.isFinal = false
  | signalling | returning | exited => state.isFinal = true

namespace ManagedService

variable {s s' : ManagedService}

/-- What a step of the worker does. -/
inductive Works (s : ManagedService) : ManagedService → Prop
  | runtimeFails {message : String} (hthread : s.thread = .opening) :
    Works s (s.returned (.error message))
  | listenFails {message : String} (hthread : s.thread = .opening) :
    Works s { s with thread := .refusing message }
  | listens (hthread : s.thread = .opening) :
    Works s { s with state := .running, thread := .announcing }
  | refuses {message : String} {startedRx : Channel (Except String Unit) 1}
    (hthread : s.thread = .refusing message)
    (hsent : sent s.startedRx (.error message) = some startedRx) :
    Works s ({ s with startedRx }.returned (.error message))
  | announces {startedRx : Channel (Except String Unit) 1} (hthread : s.thread = .announcing)
    (hsent : sent s.startedRx (.ok ()) = some startedRx) :
    Works s { s with startedRx, thread := .serving }
  | takes (hthread : s.thread = .serving) (hpermit : s.permit = true) :
    Works s { s with permit := false, thread := .notified }
  | stores (hthread : s.thread = .notified) :
    Works s { s with shuttingDown := true, thread := .draining }
  | returns {result : Except String Unit}
    (hthread : s.thread = .serving ∨ s.thread = .notified ∨ s.thread = .draining) :
    Works s (s.returned result)
  | records {state : ManagedServiceState} {result : Except String Unit}
    (hthread : s.thread = .recording result) (hstate : state.isFinal = true) :
    Works s { s with state, thread := .signalling }
  | signals {stoppedRx : Channel Unit 1} (hthread : s.thread = .signalling)
    (hsent : sent s.stoppedRx () = some stoppedRx) :
    Works s { s with stoppedRx, thread := .returning }
  | exits (hthread : s.thread = .returning) : Works s (s.gone .exited)
  | panics (hthread : s.thread.manages = true) : Works s (s.gone .panicked)

/-- What a step of the worker does. -/
theorem works_of_workerStep {action : ServiceWorkerAction} (h : s.workerStep action = some s') :
    Works s s' := by
  cases action with
  | runtimeFails error =>
    dsimp only [workerStep] at h
    split at h <;> cases h
    exact .runtimeFails ‹_›
  | listenFails listen error =>
    dsimp only [workerStep] at h
    split at h <;> cases h
    exact .listenFails ‹_›
  | listens =>
    dsimp only [workerStep] at h
    split at h <;> cases h
    exact .listens ‹_›
  | announce =>
    dsimp only [workerStep] at h
    split at h
    next hthread =>
      obtain ⟨startedRx, hsent, rfl⟩ := Option.map_eq_some_iff.mp h
      exact .refuses hthread hsent
    next hthread =>
      obtain ⟨startedRx, hsent, rfl⟩ := Option.map_eq_some_iff.mp h
      exact .announces hthread hsent
    next => cases h
  | take =>
    dsimp only [workerStep] at h
    split at h
    next hthread hpermit =>
      cases h
      exact .takes hthread hpermit
    next => cases h
  | store =>
    dsimp only [workerStep] at h
    split at h <;> cases h
    exact .stores ‹_›
  | serveFails error =>
    dsimp only [workerStep] at h
    split at h
    next hthread =>
      cases h
      exact .returns (.inl hthread)
    next hthread =>
      cases h
      exact .returns (.inr (.inl hthread))
    next hthread =>
      cases h
      exact .returns (.inr (.inr hthread))
    next => cases h
  | drain =>
    dsimp only [workerStep] at h
    split at h <;> cases h
    exact .returns (.inr (.inr ‹_›))
  | record =>
    dsimp only [workerStep] at h
    split at h
    next hthread =>
      cases h
      exact .records hthread rfl
    next hthread =>
      split at h
      next message hstate =>
        cases h
        have hfinal : s.state.isFinal = true := by
          rw [hstate]
          rfl
        have hrecords := Works.records hthread hfinal
        exact hrecords
      next =>
        cases h
        exact .records hthread rfl
    next => cases h
  | signal =>
    dsimp only [workerStep] at h
    split at h
    next hthread =>
      obtain ⟨stoppedRx, hsent, rfl⟩ := Option.map_eq_some_iff.mp h
      exact .signals hthread hsent
    next => cases h
  | exit =>
    dsimp only [workerStep] at h
    split at h <;> cases h
    exact .exits ‹_›
  | panic =>
    dsimp only [workerStep] at h
    split_ifs at h with hmanages
    cases h
    exact .panics hmanages

/-! ## What a step of the owner does -/

/-- What a step of the owner does. -/
inductive Calls (s : ManagedService) : ServiceOutput × ManagedService → Prop
  | started {startedRx : Channel (Except String Unit) 1} (howner : s.owner = .starting)
    (hqueue : .ok () ∈ s.startedRx.queue) (hless : startedRx.queue = []) :
    Calls s (.started (.ok ()),
      { s with startedRx := startedRx.dropReceiver, owner := .idle })
  | refused {message : String} {startedRx : Channel (Except String Unit) 1}
    (howner : s.owner = .starting) (hless : startedRx.queue = []) :
    Calls s (.silent, { s with startedRx, owner := .abandoning message })
  | cancels {error : RecvTimeoutError} (howner : s.owner = .starting) :
    Calls s (.silent, { s with owner := .cancelling error })
  | withdraws {error : RecvTimeoutError} (howner : s.owner = .cancelling error) :
    Calls s (.silent, { s with shuttingDown := true, owner := .withdrawing error })
  | abandons {message : String} {error : RecvTimeoutError} (howner : s.owner = .withdrawing error) :
    Calls s (.silent, { s with permit := true, owner := .abandoning message })
  | unstarted {message : String} (howner : s.owner = .abandoning message)
    (hended : s.ended = true) :
    Calls s (.started (.error message),
      { s with
        worker := false, owner := .unstarted
        startedRx := s.startedRx.dropReceiver, stoppedRx := s.stoppedRx.dropReceiver })
  | again {caller : StopCaller} (howner : s.owner = .idle) (hworker : s.worker = false) :
    Calls s (s.answer caller (.ok ()))
  | asks {state : ManagedServiceState} {caller : StopCaller} (howner : s.owner = .idle)
    (hworker : s.worker = true)
    (hstate : state = s.state ∨
      (s.state = .starting ∨ s.state = .running) ∧ state = .stopping) :
    Calls s (.silent, { s with state, owner := .storing caller })
  | stores {caller : StopCaller} (howner : s.owner = .storing caller) :
    Calls s (.silent, { s with shuttingDown := true, owner := .notifying caller })
  | notifies {caller : StopCaller} (howner : s.owner = .notifying caller) :
    Calls s (.silent, { s with permit := true, owner := .waiting caller })
  | stopped {stoppedRx : Channel Unit 1} {caller : StopCaller} (howner : s.owner = .waiting caller)
    (hqueue : s.stoppedRx.queue = () :: stoppedRx.queue)
    (hsender : stoppedRx.sender = s.stoppedRx.sender) :
    Calls s (.silent, { s with stoppedRx, worker := false, owner := .joining caller })
  | expired {caller : StopCaller} (howner : s.owner = .waiting caller) :
    Calls s (s.answer caller (.error (stopExpired .timeout)))
  | disconnected {caller : StopCaller} (howner : s.owner = .waiting caller)
    (hqueue : s.stoppedRx.queue = []) (hsender : s.stoppedRx.sender = false) :
    Calls s (s.answer caller (.error (stopExpired .disconnected)))
  | joined {caller : StopCaller} (howner : s.owner = .joining caller)
    (hthread : s.thread = .exited) :
    Calls s (.silent, { s with owner := .reporting caller })
  | panicked {caller : StopCaller} {message : String} (howner : s.owner = .joining caller)
    (hthread : s.thread = .panicked) :
    Calls s (s.answer caller (.error message))
  | failed {caller : StopCaller} {message : String} (howner : s.owner = .reporting caller)
    (hstate : s.state = .failed message) :
    Calls s (s.answer caller (.error message))
  | succeeded {caller : StopCaller} (howner : s.owner = .reporting caller)
    (hstate : ∀ message, s.state ≠ .failed message) :
    Calls s (s.answer caller (.ok ()))

/-- A shutdown asks the worker, or has nothing to do. -/
theorem calls_beginShutdown (caller : StopCaller) (howner : s.owner = .idle) :
    Calls s (s.beginShutdown caller) := by
  unfold beginShutdown
  split_ifs with hworker
  · dsimp only
    split
    next hstate => exact .asks howner hworker (.inr ⟨.inr hstate, rfl⟩)
    next hstate => exact .asks howner hworker (.inr ⟨.inl hstate, rfl⟩)
    next => exact .asks howner hworker (.inl rfl)
  · exact .again howner (Bool.not_eq_true _ ▸ hworker)

/-- What a step of the owner does. -/
theorem calls_of_ownerStep {action : ServiceOwnerAction} {r : ServiceOutput × ManagedService}
    (h : s.ownerStep action = some r) : Calls s r := by
  cases action with
  | received expired =>
    dsimp only [ownerStep, received] at h
    split at h
    next howner =>
      split at h
      next startedRx hrecv =>
        cases h
        obtain ⟨hqueue, -, -⟩ := Channel.tryRecv_ok_iff.mp hrecv
        have hle := s.startedRx.length_le
        rw [hqueue, List.length_cons] at hle
        refine .started howner (hqueue ▸ List.mem_cons_self) ?_
        exact List.length_eq_zero_iff.mp (Nat.le_zero.mp (Nat.le_of_succ_le_succ hle))
      next message startedRx hrecv =>
        cases h
        obtain ⟨hqueue, -, -⟩ := Channel.tryRecv_ok_iff.mp hrecv
        have hle := s.startedRx.length_le
        rw [hqueue, List.length_cons] at hle
        exact .refused howner
          (List.length_eq_zero_iff.mp (Nat.le_zero.mp (Nat.le_of_succ_le_succ hle)))
      next =>
        split_ifs at h
        cases h
        exact .cancels howner
      next =>
        cases h
        exact .cancels howner
    next => cases h
  | joinUnstarted =>
    dsimp only [ownerStep, joinUnstarted] at h
    split at h
    next howner =>
      split_ifs at h with hended
      cases h
      exact .unstarted howner hended
    next => cases h
  | shutdown | drop =>
    dsimp only [ownerStep] at h
    split_ifs at h with howner
    cases h
    exact calls_beginShutdown _ howner
  | store =>
    dsimp only [ownerStep, store] at h
    split at h
    next howner =>
      cases h
      exact .withdraws howner
    next howner =>
      cases h
      exact .stores howner
    next => cases h
  | notify =>
    dsimp only [ownerStep, notify] at h
    split at h
    next howner =>
      cases h
      exact .abandons howner
    next howner =>
      cases h
      exact .notifies howner
    next => cases h
  | stopped expired =>
    dsimp only [ownerStep, stopped] at h
    split at h
    next howner =>
      split at h
      next stoppedRx hrecv =>
        cases h
        obtain ⟨hqueue, hsender, -⟩ := Channel.tryRecv_ok_iff.mp hrecv
        exact .stopped howner hqueue hsender
      next =>
        split_ifs at h
        cases h
        exact .expired howner
      next hrecv =>
        cases h
        obtain ⟨hqueue, hsender⟩ := Channel.tryRecv_disconnected_iff.mp hrecv
        exact .disconnected howner hqueue hsender
    next => cases h
  | join =>
    dsimp only [ownerStep, join] at h
    split at h
    next howner hthread =>
      cases h
      exact .joined howner hthread
    next howner hthread =>
      cases h
      exact .panicked howner hthread
    next => cases h
  | report =>
    dsimp only [ownerStep, report] at h
    split at h
    next howner =>
      split at h
      next message hstate =>
        cases h
        exact .failed howner hstate
      next hstate =>
        cases h
        exact .succeeded howner hstate
    next => cases h

/-! ## What one may rely on while the other is where it is -/

/-- What the owner may rely on where it is. -/
def Relies (s : ManagedService) : Prop :=
  match s.owner with
  | .starting | .cancelling _ | .withdrawing _ | .abandoning _ => s.worker = true
  | .unstarted => s.ended = true
  | .idle | .dropped =>
    s.thread.announced = true ∧ (s.worker = false → s.thread = .exited ∧ s.shuttingDown = true)
  | .storing _ => s.thread.announced = true ∧ s.worker = true
  | .notifying _ => s.thread.announced = true ∧ s.worker = true ∧ s.shuttingDown = true
  | .waiting _ =>
    s.thread.announced = true ∧ s.worker = true ∧ s.shuttingDown = true ∧
      (s.thread = .serving → s.permit = true)
  | .joining _ => s.thread.signalled = true ∧ s.worker = false ∧ s.shuttingDown = true
  | .reporting _ => s.thread = .exited ∧ s.worker = false ∧ s.shuttingDown = true

/-- What holds between an owner and its worker. -/
structure Coherent (s : ManagedService) : Prop where
  /-- The state is one of where the worker is. -/
  state : s.thread.Allows s.state
  /-- What the owner may rely on holds. -/
  relies : s.Relies
  /-- That the service runs was said by a worker past the start. -/
  started : .ok () ∈ s.startedRx.queue → s.thread.announced = true
  /-- The worker says that it has stopped once, and not before. -/
  unsent : s.thread.signalled = false → s.stoppedRx.queue = []
  /-- That it has stopped waits for the owner. -/
  sent : s.thread.signalled = true → s.worker = true → s.stoppedRx.queue = [()]
  /-- The owner listens as long as it holds the handle. -/
  receiver : s.worker = true → s.stoppedRx.receiver = true
  /-- The worker's end of the channel is dropped as it ends. -/
  sender : s.stoppedRx.sender = !s.ended

/-- What a step of the worker leaves to the owner. -/
structure Follows (s s' : ManagedService) : Prop where
  owner : s'.owner = s.owner
  worker : s'.worker = s.worker
  shuttingDown : s.shuttingDown = true → s'.shuttingDown = true
  announced : s.thread.announced = true → s'.thread.announced = true
  ended : s.ended = false
  signalled : s.thread.signalled = true → s'.thread = .exited
  serving : s'.thread = .serving → s.thread.announced = false

/-- What a step of the worker leaves to the owner. -/
theorem Works.follows (h : Works s s') : Follows s s' := by
  cases h with
  | runtimeFails hthread =>
    constructor <;> simp [returned, ended, hthread, ServiceWorker.announced, ServiceWorker.signalled]
  | listenFails hthread =>
    constructor <;> simp [ended, hthread, ServiceWorker.announced, ServiceWorker.signalled]
  | listens hthread =>
    constructor <;> simp [ended, hthread, ServiceWorker.announced, ServiceWorker.signalled]
  | refuses hthread hsent =>
    constructor <;> simp [returned, ended, hthread, ServiceWorker.announced, ServiceWorker.signalled]
  | announces hthread hsent =>
    constructor <;> simp [ended, hthread, ServiceWorker.announced, ServiceWorker.signalled]
  | takes hthread hpermit =>
    constructor <;> simp [ended, hthread, ServiceWorker.announced, ServiceWorker.signalled]
  | stores hthread =>
    constructor <;> simp [ended, hthread, ServiceWorker.announced, ServiceWorker.signalled]
  | returns hthread =>
    rcases hthread with hthread | hthread | hthread <;> constructor <;>
      simp [returned, ended, hthread, ServiceWorker.announced, ServiceWorker.signalled]
  | records hthread hstate =>
    constructor <;> simp [ended, hthread, ServiceWorker.announced, ServiceWorker.signalled]
  | signals hthread hsent =>
    constructor <;> simp [ended, hthread, ServiceWorker.announced, ServiceWorker.signalled]
  | exits hthread =>
    constructor <;> simp [gone, ended, hthread, ServiceWorker.announced]
  | panics hthread =>
    cases hs : s.thread <;> rw [hs] at hthread <;> cases hthread <;> constructor <;>
      simp [gone, ended, hs, ServiceWorker.announced, ServiceWorker.signalled]

/-- What the owner relies on stays true while the worker goes on. -/
theorem Follows.relies (h : Follows s s') (hs : s.Relies) : s'.Relies := by
  have hexited : s.thread ≠ .exited := by
    intro hthread
    have hended : s.ended = true := by
      unfold ManagedService.ended
      rw [hthread]
    cases hended.symm.trans h.ended
  unfold Relies at hs ⊢
  rw [h.owner]
  cases howner : s.owner with
  | starting | cancelling error | withdrawing error | abandoning message =>
    rw [howner] at hs
    exact h.worker.trans hs
  | unstarted =>
    rw [howner] at hs
    exact absurd (h.ended.symm.trans hs) Bool.false_ne_true
  | idle | dropped =>
    rw [howner] at hs
    exact ⟨h.announced hs.1, fun hworker =>
      absurd (hs.2 (h.worker.symm.trans hworker)).1 hexited⟩
  | storing caller =>
    rw [howner] at hs
    exact ⟨h.announced hs.1, h.worker.trans hs.2⟩
  | notifying caller =>
    rw [howner] at hs
    exact ⟨h.announced hs.1, h.worker.trans hs.2.1, h.shuttingDown hs.2.2⟩
  | waiting caller =>
    rw [howner] at hs
    refine ⟨h.announced hs.1, h.worker.trans hs.2.1, h.shuttingDown hs.2.2.1, fun hserving => ?_⟩
    cases hs.1.symm.trans (h.serving hserving)
  | joining caller =>
    rw [howner] at hs
    refine ⟨?_, h.worker.trans hs.2.1, h.shuttingDown hs.2.2⟩
    rw [h.signalled hs.1]
    rfl
  | reporting caller =>
    rw [howner] at hs
    exact absurd hs.1 hexited

/-- In `run_managed`, nothing follows the state only later. -/
theorem not_isFinal_of_manages {thread : ServiceWorker} {state : ManagedServiceState}
    (h : thread.manages = true) (hallows : thread.Allows state) : state.isFinal = false := by
  cases thread with
  | opening | refusing message | announcing =>
    rw [show state = _ from hallows]
    rfl
  | serving | notified | draining =>
    rcases hallows with rfl | rfl
    · rfl
    · rfl
  | recording result | signalling | returning | exited | panicked => cases h

/-- Every step of the worker keeps the two coherent. -/
theorem Coherent.works (h : s.Coherent) (hworks : Works s s') : s'.Coherent := by
  have hfollows := hworks.follows
  have hstate := h.state
  have hsender := h.sender
  rw [hfollows.ended] at hsender
  -- Where the worker does not end, and does not say that it has stopped.
  have hgoesOn {thread : ServiceWorker} {state : ManagedServiceState}
      {shuttingDown permit : Bool} {startedRx : Channel (Except String Unit) 1}
      (hs' : s' = { s with thread, state, shuttingDown, permit, startedRx })
      (hallows : thread.Allows state)
      (hstarted : .ok () ∈ startedRx.queue → thread.announced = true)
      (hsignalled : thread.signalled = s.thread.signalled) (hended : s'.ended = false) :
      s'.Coherent := by
    subst hs'
    exact ⟨hallows, hfollows.relies h.relies, hstarted, fun hf => h.unsent (hsignalled ▸ hf),
      fun ht => h.sent (hsignalled ▸ ht), h.receiver, hsender.trans (by rw [hended])⟩
  cases hworks with
  | runtimeFails hthread =>
    rw [hthread] at hstate
    refine hgoesOn rfl ?_ (fun _ => rfl) (by rw [hthread]; rfl) rfl
    show s.state.isFinal = false
    rw [show s.state = .starting from hstate]
    rfl
  | listenFails hthread =>
    have hannounced := h.started
    rw [hthread] at hstate hannounced
    exact hgoesOn rfl hstate hannounced (by rw [hthread]; rfl) rfl
  | listens hthread =>
    have hannounced := h.started
    rw [hthread] at hannounced
    exact hgoesOn rfl rfl hannounced (by rw [hthread]; rfl) rfl
  | refuses hthread hsent =>
    rw [hthread] at hstate
    refine hgoesOn rfl ?_ (fun _ => rfl) (by rw [hthread]; rfl) rfl
    show s.state.isFinal = false
    rw [show s.state = .starting from hstate]
    rfl
  | announces hthread hsent =>
    rw [hthread] at hstate
    exact hgoesOn rfl (.inl hstate) (fun _ => rfl) (by rw [hthread]; rfl) rfl
  | takes hthread hpermit =>
    rw [hthread] at hstate
    exact hgoesOn rfl hstate (fun _ => rfl) (by rw [hthread]; rfl) rfl
  | stores hthread =>
    rw [hthread] at hstate
    exact hgoesOn rfl hstate (fun _ => rfl) (by rw [hthread]; rfl) rfl
  | returns hthread =>
    have hmanages : s.thread.manages = true ∧ s.thread.signalled = false := by
      rcases hthread with hthread | hthread | hthread <;> rw [hthread] <;> exact ⟨rfl, rfl⟩
    exact hgoesOn rfl (not_isFinal_of_manages hmanages.1 hstate) (fun _ => rfl)
      hmanages.2.symm rfl
  | records hthread hfinal =>
    exact hgoesOn rfl hfinal (fun _ => rfl) (by rw [hthread]; rfl) rfl
  | @signals stoppedRx hthread hsent =>
    obtain ⟨hsame, hreceiver, hqueue⟩ := sent_eq_some hsent
    rw [hthread] at hstate
    refine ⟨hstate, hfollows.relies h.relies, fun _ => rfl, fun hf => (by cases hf), ?_,
      fun hworker => hreceiver.trans (h.receiver hworker), hsame.trans hsender⟩
    intro _ hworker
    have hempty := h.unsent (by rw [hthread]; rfl)
    rcases hqueue with ⟨-, hqueue⟩ | ⟨hgone, -⟩
    · rw [hempty] at hqueue
      exact hqueue
    · cases hgone.symm.trans (h.receiver hworker)
  | exits hthread =>
    rw [hthread] at hstate
    refine ⟨hstate, hfollows.relies h.relies, fun _ => rfl, fun hf => (by cases hf),
      fun _ => h.sent (by rw [hthread]; rfl), h.receiver, rfl⟩
  | panics hthread =>
    refine ⟨not_isFinal_of_manages hthread hstate, hfollows.relies h.relies, fun _ => rfl,
      fun _ => h.unsent ?_, fun hf => (by cases hf), h.receiver, rfl⟩
    cases hs : s.thread <;> rw [hs] at hthread <;> cases hthread <;> rfl

/-- Past the start, the service may be stopping until it has stopped. -/
theorem allows_stopping {thread : ServiceWorker} {state : ManagedServiceState}
    (h : thread.announced = true) (hallows : thread.Allows state) (hfinal : state.isFinal = false) :
    thread.Allows .stopping := by
  cases thread with
  | opening | refusing message | announcing => cases h
  | serving | notified | draining => exact .inr rfl
  | recording result | panicked => rfl
  | signalling | returning | exited => cases hfinal.symm.trans hallows

/-- Every step of the owner keeps the two coherent. -/
theorem Coherent.calls {r : ServiceOutput × ManagedService} (h : s.Coherent) (hcalls : Calls s r) :
    r.2.Coherent := by
  have hrelies := h.relies
  unfold Relies at hrelies
  -- A call that returns leaves everything as it is.
  have hanswer {caller : StopCaller} {result : Except String Unit}
      (hannounced : s.thread.announced = true)
      (hworker : s.worker = false → s.thread = .exited ∧ s.shuttingDown = true) :
      (s.answer caller result).2.Coherent := by
    cases caller with
    | shutdown => exact { h with relies := ⟨hannounced, hworker⟩ }
    | drop => exact { h with relies := ⟨hannounced, hworker⟩ }
  cases hcalls with
  | started howner hqueue hless =>
    rw [howner] at hrelies
    have hannounced := h.started hqueue
    exact { h with
      relies := ⟨hannounced, fun hworker => absurd (hworker.symm.trans hrelies) Bool.false_ne_true⟩
      started := fun hmem => hannounced }
  | refused howner hless =>
    rw [howner] at hrelies
    exact { h with
      relies := hrelies
      started := fun hmem => absurd (hless ▸ hmem) List.not_mem_nil }
  | cancels howner | withdraws howner | abandons howner =>
    rw [howner] at hrelies
    exact { h with relies := hrelies }
  | unstarted howner hended =>
    exact { h with
      relies := hended
      started := fun hmem => absurd hmem List.not_mem_nil
      unsent := fun _ => rfl
      sent := fun _ hworker => (by cases hworker)
      receiver := fun hworker => (by cases hworker) }
  | again howner hworker =>
    rw [howner] at hrelies
    exact hanswer hrelies.1 hrelies.2
  | @asks state caller howner hworker hstate =>
    rw [howner] at hrelies
    have hallows : s.thread.Allows state := by
      rcases hstate with rfl | ⟨hstate | hstate, rfl⟩
      · exact h.state
      · exact allows_stopping hrelies.1 h.state (by rw [hstate]; rfl)
      · exact allows_stopping hrelies.1 h.state (by rw [hstate]; rfl)
    exact { h with state := hallows, relies := ⟨hrelies.1, hworker⟩ }
  | stores howner =>
    rw [howner] at hrelies
    exact { h with relies := ⟨hrelies.1, hrelies.2, rfl⟩ }
  | notifies howner =>
    rw [howner] at hrelies
    exact { h with relies := ⟨hrelies.1, hrelies.2.1, hrelies.2.2, fun _ => rfl⟩ }
  | stopped howner hqueue hsender =>
    rw [howner] at hrelies
    have hsignalled : s.thread.signalled = true := by
      by_contra hnot
      rw [h.unsent (Bool.eq_false_iff.mpr hnot)] at hqueue
      cases hqueue
    exact { h with
      relies := ⟨hsignalled, rfl, hrelies.2.2.1⟩
      unsent := fun hf => absurd (hf.symm.trans hsignalled) Bool.false_ne_true
      sent := fun _ hworker => (by cases hworker)
      receiver := fun hworker => (by cases hworker)
      sender := hsender.trans h.sender }
  | expired howner =>
    rw [howner] at hrelies
    exact hanswer hrelies.1 fun hworker =>
      absurd (hworker.symm.trans hrelies.2.1) Bool.false_ne_true
  | disconnected howner hqueue hsender =>
    rw [howner] at hrelies
    exact hanswer hrelies.1 fun hworker =>
      absurd (hworker.symm.trans hrelies.2.1) Bool.false_ne_true
  | joined howner hthread =>
    rw [howner] at hrelies
    exact { h with relies := ⟨hthread, hrelies.2⟩ }
  | panicked howner hthread =>
    rw [howner, hthread] at hrelies
    cases hrelies.1
  | failed howner hstate =>
    rw [howner] at hrelies
    exact hanswer (by rw [hrelies.1]; rfl) fun _ => ⟨hrelies.1, hrelies.2.2⟩
  | succeeded howner hstate =>
    rw [howner] at hrelies
    exact hanswer (by rw [hrelies.1]; rfl) fun _ => ⟨hrelies.1, hrelies.2.2⟩

/-- A step is one of the worker, of which there is nothing to see, or one of the owner. -/
theorem works_or_calls {action : Action} {r : ServiceOutput × ManagedService}
    (h : s.step action = some r) : (r.1 = .silent ∧ Works s r.2) ∨ Calls s r := by
  cases action with
  | worker action =>
    obtain ⟨s', hstep, rfl⟩ := Option.map_eq_some_iff.mp h
    exact .inl ⟨rfl, works_of_workerStep hstep⟩
  | owner action => exact .inr (calls_of_ownerStep h)

/-- Every step keeps the two coherent. -/
theorem Coherent.step {action : Action} {r : ServiceOutput × ManagedService} (h : s.Coherent)
    (hstep : s.step action = some r) : r.2.Coherent := by
  rcases works_or_calls hstep with ⟨-, hworks⟩ | hcalls
  · exact h.works hworks
  · exact h.calls hcalls

/-- At first they are coherent. -/
theorem Coherent.start : start.Coherent where
  state := rfl
  relies := rfl
  started := fun hmem => absurd hmem List.not_mem_nil
  unsent := fun _ => rfl
  sent := fun hf => (by cases hf)
  receiver := fun _ => rfl
  sender := rfl

variable {labels later : List (Action × ServiceOutput)}

/-- In every run they are coherent. -/
theorem coherent_of_run (h : system.Run start labels s) : s.Coherent :=
  TransitionSystem.Run.invariant (S := system) (I := Coherent) .start
    (fun _ _ _ hs hstep => hs.step hstep) h

/-! ## The state never goes back -/

/-- The state goes on or stays, and stays for good once nothing follows it. -/
def Onward (s s' : ManagedService) : Prop :=
  s.state.rank ≤ s'.state.rank ∧ (s.state.isFinal = true → s'.state = s.state)

/-- A step that leaves the state goes onward. -/
theorem Onward.of_eq (h : s'.state = s.state) : Onward s s' :=
  ⟨Nat.le_of_eq (congrArg _ h.symm), fun _ => h⟩

/-- A state that nothing follows is the last. -/
theorem ManagedServiceState.rank_le {state state' : ManagedServiceState}
    (h : state'.isFinal = true) : state.rank ≤ state'.rank := by
  cases state' with
  | starting | running | stopping => cases h
  | stopped | failed message => cases state <;> exact Nat.le_of_ble_eq_true rfl

/-- An answer leaves the state. -/
theorem answer_state (caller : StopCaller) (result : Except String Unit) :
    (s.answer caller result).2.state = s.state := by
  cases caller <;> rfl

/-- Every step goes on. -/
theorem onward_of_step {action : Action} {r : ServiceOutput × ManagedService} (h : s.Coherent)
    (hstep : s.step action = some r) : Onward s r.2 := by
  have hstate := h.state
  -- Before the end, every later state is further.
  have hlater (hfinal : s.state.isFinal = false) {t : ManagedService}
      (hrank : s.state.rank ≤ t.state.rank) : Onward s t :=
    ⟨hrank, fun hf => absurd (hfinal.symm.trans hf) Bool.false_ne_true⟩
  rcases works_or_calls hstep with ⟨-, hworks⟩ | hcalls
  · generalize r.2 = s' at hworks ⊢
    cases hworks with
    | listens hthread =>
      rw [hthread] at hstate
      have hstarting : s.state = .starting := hstate
      exact hlater (by rw [hstarting]; rfl) (by rw [hstarting]; exact Nat.zero_le _)
    | records hthread hfinal =>
      rw [hthread] at hstate
      exact hlater hstate (ManagedServiceState.rank_le hfinal)
    | runtimeFails hthread | listenFails hthread | returns hthread | exits hthread
    | panics hthread | stores hthread => exact .of_eq rfl
    | refuses hthread hsent | announces hthread hsent | takes hthread hpermit
    | signals hthread hsent => exact .of_eq rfl
  · cases hcalls with
    | asks howner hworker hnext =>
      rcases hnext with rfl | ⟨hnext | hnext, rfl⟩
      · exact .of_eq rfl
      · exact hlater (by rw [hnext]; rfl) (by rw [hnext]; exact Nat.le_of_ble_eq_true rfl)
      · exact hlater (by rw [hnext]; rfl) (by rw [hnext]; exact Nat.le_of_ble_eq_true rfl)
    | started howner hqueue hless | refused howner hless => exact .of_eq rfl
    | cancels howner | withdraws howner | abandons howner => exact .of_eq rfl
    | unstarted howner hended | joined howner hthread => exact .of_eq rfl
    | stores howner | notifies howner => exact .of_eq rfl
    | stopped howner hqueue hsender => exact .of_eq rfl
    | again howner hworker => exact .of_eq (answer_state _ _)
    | expired howner => exact .of_eq (answer_state _ _)
    | disconnected howner hqueue hsender => exact .of_eq (answer_state _ _)
    | panicked howner hthread => exact .of_eq (answer_state _ _)
    | failed howner hfailed | succeeded howner hfailed => exact .of_eq (answer_state _ _)

/-- In every run, the state of a service goes from starting over running and stopping to stopped or
failed, never back, and stays where it ends. -/
theorem state_monotone (h : system.Run start labels s) (hlater : system.Run s later s') :
    s.state.rank ≤ s'.state.rank ∧ (s.state.isFinal = true → s'.state = s.state) := by
  have hboth : s'.Coherent ∧ Onward s s' := by
    apply TransitionSystem.Run.invariant (S := system) (I := fun t => t.Coherent ∧ Onward s t) _ _
      hlater
    · exact ⟨coherent_of_run h, .of_eq rfl⟩
    · rintro t label t' ⟨ht, hrank, hfinal⟩ hstep
      obtain ⟨hrank', hfinal'⟩ := onward_of_step ht hstep
      refine ⟨ht.step hstep, Nat.le_trans hrank hrank', fun hf => ?_⟩
      have hsame := hfinal hf
      exact (hfinal' (hsame ▸ hf)).trans hsame
  exact hboth.2

/-- The service starts. -/
def startActions : List Action := [.worker .listens, .worker .announce, .owner (.received false)]

/-- The start, with what it shows, and the service that runs. -/
def startRun : List (Action × ServiceOutput) × ManagedService :=
  (TransitionSystem.trace step (fun _ _ => true) start startActions).getD ([], start)

/-- A shutdown waits in vain for the worker, and another one sees that it has stopped. -/
def shutdownActions : List Action :=
  [.owner .shutdown, .owner .store, .owner .notify, .worker .take, .owner (.stopped true),
    .owner .shutdown, .worker .store, .owner .store, .owner .notify, .worker .drain,
    .worker .record, .worker .signal, .owner (.stopped false), .worker .exit, .owner .join]

/-- The shutdowns, with what they show, and the service that has stopped. -/
def shutdownRun : List (Action × ServiceOutput) × ManagedService :=
  (TransitionSystem.trace step (fun _ _ => true) startRun.2 shutdownActions).getD ([], startRun.2)

/-- From a service that runs to one that was shut down, the state advances. -/
theorem state_monotone_shutdown :
    startRun.2.state.rank ≤ shutdownRun.2.state.rank ∧
      (startRun.2.state.isFinal = true → shutdownRun.2.state = startRun.2.state) := by
  have hstart : system.Run start startRun.1 startRun.2 :=
    TransitionSystem.run_of_trace_isSome (by decide)
  have hlater : system.Run startRun.2 shutdownRun.1 shutdownRun.2 :=
    TransitionSystem.run_of_trace_isSome (by decide)
  exact state_monotone hstart hlater

/-! ## What the owner knows -/

/-- The listener was opened, and the service ran. -/
def Opened (labels : List (Action × ServiceOutput)) : Prop :=
  ∃ before after t, labels = before ++ (.worker .listens, .silent) :: after ∧
    system.Run start (before ++ [(.worker .listens, .silent)]) t ∧ t.state = .running

/-- What has happened stays so. -/
theorem Opened.append (h : Opened labels) (later : List (Action × ServiceOutput)) :
    Opened (labels ++ later) := by
  obtain ⟨before, after, t, rfl, hrun, hrunning⟩ := h
  exact ⟨before, after ++ later, t, List.append_assoc _ _ _, hrun, hrunning⟩

/-- A worker is about to say that the service runs where it has just opened the listener. -/
theorem listens_of_announcing {action : ServiceWorkerAction} (h : s.workerStep action = some s')
    (hthread : s'.thread = .announcing) : action = .listens ∧ s'.state = .running := by
  cases action with
  | listens =>
    dsimp only [workerStep] at h
    split at h <;> cases h
    exact ⟨rfl, rfl⟩
  | announce =>
    dsimp only [workerStep] at h
    split at h
    next =>
      obtain ⟨startedRx, -, rfl⟩ := Option.map_eq_some_iff.mp h
      cases hthread
    next =>
      obtain ⟨startedRx, -, rfl⟩ := Option.map_eq_some_iff.mp h
      cases hthread
    next => cases h
  | signal =>
    dsimp only [workerStep] at h
    split at h
    next =>
      obtain ⟨stoppedRx, -, rfl⟩ := Option.map_eq_some_iff.mp h
      cases hthread
    next => cases h
  | record =>
    dsimp only [workerStep] at h
    repeat' split at h
    all_goals cases h <;> cases hthread
  | runtimeFails _ | listenFails _ _ | take | store | serveFails _ | drain | exit | panic =>
    dsimp only [workerStep] at h
    split at h <;> cases h <;> cases hthread

/-- That the service runs is said by a worker that was about to. -/
theorem Works.said (h : Works s s') (hmem : .ok () ∈ s'.startedRx.queue) :
    .ok () ∈ s.startedRx.queue ∨ s.thread = .announcing := by
  cases h with
  | announces hthread hsent => exact .inr hthread
  | refuses hthread hsent =>
    obtain ⟨-, -, ⟨-, hqueue⟩ | ⟨-, hqueue⟩⟩ := sent_eq_some hsent
    · have hadded : (.ok () : Except String Unit) ∈ s.startedRx.queue ++ [.error _] :=
        hqueue ▸ hmem
      rcases List.mem_append.mp hadded with hold | hnew
      · exact .inl hold
      · cases List.mem_singleton.mp hnew
    · have hold : (.ok () : Except String Unit) ∈ s.startedRx.queue := hqueue ▸ hmem
      exact .inl hold
  | runtimeFails hthread | listenFails hthread | listens hthread | takes hthread hpermit
  | stores hthread | returns hthread | records hthread hstate | signals hthread hsent
  | exits hthread | panics hthread => exact .inl hmem

/-- The owner says nothing to itself, and leaves the worker where it is. -/
theorem Calls.said {r : ServiceOutput × ManagedService} (h : Calls s r) :
    (.ok () ∈ r.2.startedRx.queue → .ok () ∈ s.startedRx.queue) ∧ r.2.thread = s.thread := by
  have hanswer (caller : StopCaller) (result : Except String Unit) :
      (.ok () ∈ (s.answer caller result).2.startedRx.queue → .ok () ∈ s.startedRx.queue) ∧
        (s.answer caller result).2.thread = s.thread := by
    cases caller with
    | shutdown => exact ⟨id, rfl⟩
    | drop => exact ⟨id, rfl⟩
  cases h with
  | started howner hqueue hless => exact ⟨fun _ => hqueue, rfl⟩
  | refused howner hless => exact ⟨fun hmem => absurd (hless ▸ hmem) List.not_mem_nil, rfl⟩
  | unstarted howner hended => exact ⟨fun hmem => absurd hmem List.not_mem_nil, rfl⟩
  | again | expired | disconnected | panicked | failed | succeeded => exact hanswer _ _
  | cancels | withdraws | abandons | asks | stores | notifies | stopped | joined =>
    exact ⟨id, rfl⟩

/-- In every run, that the service runs is on its way only after the listener was opened. -/
theorem opened_of_run (h : system.Run start labels s)
    (hs : .ok () ∈ s.startedRx.queue ∨ s.thread = .announcing) : Opened labels := by
  revert hs
  apply TransitionSystem.Run.history (S := system) (I := fun labels s =>
    .ok () ∈ s.startedRx.queue ∨ s.thread = .announcing → Opened labels) _ _ h
  · rintro (hmem | hthread)
    · exact absurd hmem List.not_mem_nil
    · cases hthread
  rintro labels t ⟨action, output⟩ t' hrun hopened hstep hs
  cases action with
  | worker action =>
    obtain ⟨t'', hworker, heq⟩ := Option.map_eq_some_iff.mp hstep
    cases heq
    rcases hs with hmem | hthread
    · exact (hopened ((works_of_workerStep hworker).said hmem)).append _
    · obtain ⟨rfl, hrunning⟩ := listens_of_announcing hworker hthread
      exact ⟨labels, [], t', rfl, TransitionSystem.run_snoc.mpr ⟨t, hrun, hstep⟩, hrunning⟩
  | owner action =>
    obtain ⟨hqueue, hthread⟩ := (calls_of_ownerStep hstep).said
    exact (hopened (hs.imp hqueue hthread.symm.trans)).append _

/-- What an answer of a service says, after the steps that led to it. -/
def Says (labels : List (Action × ServiceOutput)) (s : ManagedService) : ServiceOutput → Prop
  | .silent => True
  -- The service runs, or has run.
  | .started (.ok ()) =>
    s.owner = .idle ∧ s.worker = true ∧ s.thread.announced = true ∧ Opened labels
  -- Nothing is left of a service that did not start.
  | .started (.error _) => s.owner = .unstarted ∧ s.worker = false ∧ s.ended = true
  -- The worker has ended, after its sessions were told.
  | .shutDown (.ok ()) =>
    s.thread = .exited ∧ s.worker = false ∧ s.state.isFinal = true ∧ s.shuttingDown = true
  -- It has failed, or it was waited for in vain, or it has panicked.
  | .shutDown (.error message) =>
    (s.thread = .exited ∧ s.state = .failed message ∧ s.worker = false) ∨
      (message = stopExpired .timeout ∧ s.worker = true ∧ s.shuttingDown = true) ∨
      (message = stopExpired .disconnected ∧ s.thread = .panicked ∧ s.worker = true)

/-- In every run, what the service answers is so. -/
theorem answers_of_run {label : Action × ServiceOutput}
    (h : system.Run start (labels ++ [label]) s) : Says labels s label.2 := by
  obtain ⟨t, hrun, hstep⟩ := TransitionSystem.run_snoc.mp h
  obtain ⟨action, output⟩ := label
  have hcoherent := coherent_of_run hrun
  have hrelies := hcoherent.relies
  unfold Relies at hrelies
  have hfinal : t.thread = .exited → t.state.isFinal = true := by
    intro hthread
    have hallows := hcoherent.state
    rw [hthread] at hallows
    exact hallows
  rcases works_or_calls hstep with ⟨hsilent, -⟩ | hcalls
  · rw [show output = .silent from hsilent]
    trivial
  -- An answer to a drop says nothing.
  have hanswer {caller : StopCaller} {result : Except String Unit}
      (hr : (output, s) = t.answer caller result)
      (hclaim : Says labels { t with owner := .idle } (.shutDown result)) :
      Says labels s output := by
    cases caller with
    | shutdown =>
      cases hr
      exact hclaim
    | drop =>
      cases hr
      trivial
  generalize hr : (output, s) = r at hcalls
  cases hcalls with
  | started howner hqueue hless =>
    rw [howner] at hrelies
    cases hr
    exact ⟨rfl, hrelies, hcoherent.started hqueue, opened_of_run hrun (.inl hqueue)⟩
  | unstarted howner hended =>
    cases hr
    exact ⟨rfl, rfl, hended⟩
  | again howner hworker =>
    rw [howner] at hrelies
    obtain ⟨hexited, hdown⟩ := hrelies.2 hworker
    exact hanswer hr ⟨hexited, hworker, hfinal hexited, hdown⟩
  | expired howner =>
    rw [howner] at hrelies
    exact hanswer hr (.inr (.inl ⟨rfl, hrelies.2.1, hrelies.2.2.1⟩))
  | disconnected howner hqueue hsender =>
    rw [howner] at hrelies
    refine hanswer hr (.inr (.inr ⟨rfl, ?_, hrelies.2.1⟩))
    -- A worker that has returned has said so, and the owner has not taken it.
    have hended := hcoherent.sender
    rw [hsender] at hended
    cases hthread : t.thread with
    | panicked => rfl
    | exited =>
      have hsent := hcoherent.sent (by rw [hthread]; rfl) hrelies.2.1
      rw [hqueue] at hsent
      cases hsent
    | opening | refusing message | announcing | serving | notified | draining =>
      simp [ended, hthread] at hended
    | recording result | signalling | returning => simp [ended, hthread] at hended
  | panicked howner hthread =>
    rw [howner, hthread] at hrelies
    cases hrelies.1
  | failed howner hfailed =>
    rw [howner] at hrelies
    exact hanswer hr (.inl ⟨hrelies.1, hfailed, hrelies.2.1⟩)
  | succeeded howner hfailed =>
    rw [howner] at hrelies
    exact hanswer hr ⟨hrelies.1, hrelies.2.1, hfinal hrelies.1, hrelies.2.2⟩
  | refused howner hless | cancels howner | withdraws howner | abandons howner =>
    cases hr
    trivial
  | asks howner hworker hstate | stores howner | notifies howner =>
    cases hr
    trivial
  | stopped howner hqueue hsender | joined howner hthread =>
    cases hr
    trivial

/-- A service that starts, and the shutdown that succeeds. -/
theorem answers_of_run_shutdown :
    Says [(.worker .listens, .silent), (.worker .announce, .silent)] startRun.2
        (.started (.ok ())) ∧
      Says (startRun.1 ++ shutdownRun.1) { shutdownRun.2 with owner := .idle }
        (.shutDown (.ok ())) := by
  have hstart : system.Run start startRun.1 startRun.2 :=
    TransitionSystem.run_of_trace_isSome (by decide)
  have hlater : system.Run startRun.2 shutdownRun.1 shutdownRun.2 :=
    TransitionSystem.run_of_trace_isSome (by decide)
  have hreport : system.step shutdownRun.2 (.owner .report, .shutDown (.ok ()))
      { shutdownRun.2 with owner := .idle } := rfl
  have hstarted : startRun.1 = [(.worker .listens, .silent), (.worker .announce, .silent)] ++
      [(.owner (.received false), .started (.ok ()))] := rfl
  exact ⟨answers_of_run (hstarted ▸ hstart), answers_of_run (TransitionSystem.run_snoc.mpr
    ⟨shutdownRun.2, TransitionSystem.run_append.mpr ⟨startRun.2, hstart, hlater⟩, hreport⟩)⟩

/-! ## A shutdown can end -/

/-- The steps that neither a timeout nor a failure takes. -/
def Action.sound : Action → Bool
  | .worker (.runtimeFails _) | .worker (.listenFails _ _) | .worker (.serveFails _) => false
  | .worker .panic => false
  | .worker .listens | .worker .announce | .worker .take | .worker .store | .worker .drain => true
  | .worker .record | .worker .signal | .worker .exit => true
  | .owner (.received expired) | .owner (.stopped expired) => !expired
  | .owner .joinUnstarted | .owner .shutdown | .owner .drop | .owner .store => true
  | .owner .notify | .owner .join | .owner .report => true

end ManagedService

/-- The steps that are left to a worker past the start. -/
def ServiceWorker.work : ServiceWorker → ℕ
  | serving => 6
  | notified => 5
  | draining => 4
  | recording _ => 3
  | signalling => 2
  | returning => 1
  | exited | panicked => 0
  | opening | refusing _ | announcing => 0

/-- The steps that are left to an owner that shuts the service down. -/
def ServiceOwner.work : ServiceOwner → ℕ
  | idle => 5
  | storing _ => 4
  | notifying _ => 3
  | waiting _ => 2
  | joining _ => 1
  | reporting _ | dropped => 0
  | starting | cancelling _ | withdrawing _ | abandoning _ | unstarted => 0

namespace ManagedService

variable {s s' : ManagedService} {labels later : List (Action × ServiceOutput)}

/-- A message finds room in an empty channel. -/
theorem exists_sent {α : Type} {channel : Channel α 1} (message : α) (h : channel.queue = []) :
    ∃ channel', sent channel message = some channel' := by
  unfold sent
  cases hsend : channel.send message with
  | some result => exact ⟨_, rfl⟩
  | none =>
    have hfull := (Channel.send_eq_none.mp hsend).2
    rw [h] at hfull
    cases hfull

/-- Past the start and until it has ended, the worker goes on, where the notification that it waits
for is there. -/
theorem Coherent.exists_works (h : s.Coherent) (hannounced : s.thread.announced = true)
    (hpermit : s.thread = .serving → s.permit = true) (hended : s.ended = false) :
    ∃ action s', s.workerStep action = some s' ∧ (Action.worker action).sound = true ∧
      s'.thread.work < s.thread.work ∧ s'.thread ≠ .panicked := by
  cases hthread : s.thread with
  | opening | refusing message | announcing =>
    rw [hthread] at hannounced
    cases hannounced
  | exited | panicked =>
    unfold ManagedService.ended at hended
    rw [hthread] at hended
    cases hended
  | serving =>
    refine ⟨.take, { s with permit := false, thread := .notified }, ?_, rfl,
      Nat.le_of_ble_eq_true rfl, ?_⟩
    · dsimp only [workerStep]
      rw [hthread, hpermit hthread]
    · rintro ⟨⟩
  | notified =>
    refine ⟨.store, { s with shuttingDown := true, thread := .draining }, ?_, rfl,
      Nat.le_of_ble_eq_true rfl, ?_⟩
    · dsimp only [workerStep]
      rw [hthread]
    · rintro ⟨⟩
  | draining =>
    refine ⟨.drain, s.returned (.ok ()), ?_, rfl,
      Nat.le_of_ble_eq_true rfl, ?_⟩
    · dsimp only [workerStep]
      rw [hthread]
    · rintro ⟨⟩
  | recording result =>
    cases result with
    | error message =>
      refine ⟨.record, { s with state := .failed message, thread := .signalling }, ?_, rfl,
        Nat.le_of_ble_eq_true rfl, ?_⟩
      · dsimp only [workerStep]
        rw [hthread]
      · rintro ⟨⟩
    | ok value =>
      have hallows := h.state
      rw [hthread] at hallows
      refine ⟨.record, { s with state := .stopped, thread := .signalling }, ?_, rfl,
      Nat.le_of_ble_eq_true rfl, ?_⟩
      · dsimp only [workerStep]
        rw [hthread]
        dsimp only
        split
        next message hfailed =>
          rw [hfailed] at hallows
          cases hallows
        next => rfl
      · rintro ⟨⟩
  | signalling =>
    obtain ⟨stoppedRx, hsent⟩ := exists_sent () (h.unsent (by rw [hthread]; rfl))
    refine ⟨.signal, { s with stoppedRx, thread := .returning }, ?_, rfl,
      Nat.le_of_ble_eq_true rfl, ?_⟩
    · dsimp only [workerStep]
      rw [hthread]
      dsimp only
      rw [hsent]
      rfl
    · rintro ⟨⟩
  | returning =>
    refine ⟨.exit, s.gone .exited, ?_, rfl,
      Nat.le_of_ble_eq_true rfl, ?_⟩
    · dsimp only [workerStep]
      rw [hthread]
    · rintro ⟨⟩

/-- A shutdown is on its way, or to come, and the worker has not panicked. -/
structure Shuts (s : ManagedService) : Prop where
  coherent : s.Coherent
  calm : s.thread ≠ .panicked
  owner : (s.owner = .idle ∧ s.worker = true) ∨ s.owner = .storing .shutdown ∨
    s.owner = .notifying .shutdown ∨ s.owner = .waiting .shutdown ∨ s.owner = .joining .shutdown ∨
    s.owner = .reporting .shutdown

/-- A shutdown goes on until it can look how the worker ended. -/
theorem Shuts.exists_step (h : s.Shuts) : s.owner = .reporting .shutdown ∨
    ∃ l s', system.step s l s' ∧ (l.1.sound = true ∧ l.2 = .silent) ∧ s'.Shuts ∧
      s'.thread.work + s'.owner.work < s.thread.work + s.owner.work := by
  have hrelies := h.coherent.relies
  unfold Relies at hrelies
  -- The owner goes on.
  have hcalls (action : ServiceOwnerAction) {t : ManagedService}
      (hstep : s.ownerStep action = some (.silent, t)) (hsound : (Action.owner action).sound = true)
      (hthread : t.thread = s.thread) (hlt : t.owner.work < s.owner.work)
      (howner : (t.owner = .idle ∧ t.worker = true) ∨ t.owner = .storing .shutdown ∨
        t.owner = .notifying .shutdown ∨ t.owner = .waiting .shutdown ∨
        t.owner = .joining .shutdown ∨ t.owner = .reporting .shutdown) :
      ∃ l s', system.step s l s' ∧ (l.1.sound = true ∧ l.2 = .silent) ∧ s'.Shuts ∧
        s'.thread.work + s'.owner.work < s.thread.work + s.owner.work := by
    have hstep' : s.step (.owner action) = some (.silent, t) := hstep
    refine ⟨(.owner action, .silent), t, hstep', ⟨hsound, rfl⟩, ?_, ?_⟩
    · exact ⟨h.coherent.step hstep', hthread ▸ h.calm, howner⟩
    · rw [hthread]
      exact Nat.add_lt_add_left hlt _
  -- The worker goes on.
  have hworks (hannounced : s.thread.announced = true)
      (hpermit : s.thread = .serving → s.permit = true) (hended : s.ended = false) :
      ∃ l s', system.step s l s' ∧ (l.1.sound = true ∧ l.2 = .silent) ∧ s'.Shuts ∧
        s'.thread.work + s'.owner.work < s.thread.work + s.owner.work := by
    obtain ⟨action, t, hstep, hsound, hlt, hcalm⟩ :=
      h.coherent.exists_works hannounced hpermit hended
    have hfollows := (works_of_workerStep hstep).follows
    have hstep' : s.step (.worker action) = some (.silent, t) := by
      show (s.workerStep action).map _ = _
      rw [hstep]
      rfl
    refine ⟨(.worker action, .silent), t, hstep', ⟨hsound, rfl⟩, ?_, ?_⟩
    · refine ⟨h.coherent.step hstep', hcalm, ?_⟩
      rw [hfollows.owner, hfollows.worker]
      exact h.owner
    · rw [hfollows.owner]
      exact Nat.add_lt_add_right hlt _
  have hended (hexited : s.thread ≠ .exited) : s.ended = false := by
    have hcalm := h.calm
    unfold ManagedService.ended
    split
    next hthread => exact absurd hthread hexited
    next hthread => exact absurd hthread hcalm
    next => rfl
  rcases h.owner with ⟨howner, hworker⟩ | howner | howner | howner | howner | howner
  · refine .inr (hcalls .shutdown (t := (s.beginShutdown .shutdown).2) ?_ rfl ?_ ?_ ?_)
    · dsimp only [ownerStep]
      rw [if_pos howner]
      unfold beginShutdown
      rw [if_pos hworker]
    · unfold beginShutdown
      rw [if_pos hworker]
    · rw [howner]
      unfold beginShutdown
      rw [if_pos hworker]
      exact Nat.le_of_ble_eq_true rfl
    · unfold beginShutdown
      rw [if_pos hworker]
      exact .inr (.inl rfl)
  · refine .inr (hcalls .store
      (t := { s with shuttingDown := true, owner := .notifying .shutdown }) ?_ rfl rfl ?_ ?_)
    · dsimp only [ownerStep, store]
      rw [howner]
    · rw [howner]
      exact Nat.le_of_ble_eq_true rfl
    · exact .inr (.inr (.inl rfl))
  · refine .inr (hcalls .notify
      (t := { s with permit := true, owner := .waiting .shutdown }) ?_ rfl rfl ?_ ?_)
    · dsimp only [ownerStep, notify]
      rw [howner]
    · rw [howner]
      exact Nat.le_of_ble_eq_true rfl
    · exact .inr (.inr (.inr (.inl rfl)))
  · -- The owner takes the message that the worker has stopped, or the worker goes on to say so.
    rw [howner] at hrelies
    by_cases hsignalled : s.thread.signalled = true
    · have hqueue := h.coherent.sent hsignalled hrelies.2.1
      obtain ⟨stoppedRx, hrecv, -⟩ := Channel.exists_tryRecv hqueue
      refine .inr (hcalls (.stopped false)
        (t := { s with stoppedRx, worker := false, owner := .joining .shutdown }) ?_ rfl rfl ?_ ?_)
      · dsimp only [ownerStep, stopped]
        rw [howner]
        dsimp only
        rw [hrecv]
      · rw [howner]
        exact Nat.le_of_ble_eq_true rfl
      · exact .inr (.inr (.inr (.inr (.inl rfl))))
    · refine .inr (hworks hrelies.1 hrelies.2.2.2 (hended ?_))
      intro hexited
      rw [hexited] at hsignalled
      exact hsignalled rfl
  · -- The worker returns, and is joined.
    rw [howner] at hrelies
    by_cases hexited : s.thread = .exited
    · refine .inr (hcalls .join (t := { s with owner := .reporting .shutdown }) ?_ rfl
        rfl ?_ ?_)
      · dsimp only [ownerStep, join]
        rw [howner, hexited]
      · rw [howner]
        exact Nat.le_of_ble_eq_true rfl
      · exact .inr (.inr (.inr (.inr (.inr rfl))))
    · refine .inr (hworks ?_ ?_ (hended hexited))
      · cases hthread : s.thread <;> rw [hthread] at hrelies <;> cases hrelies.1 <;> rfl
      · intro hserving
        rw [hserving] at hrelies
        cases hrelies.1
  · exact .inl howner

/-- Whatever happened before, a service in hand whose worker has not panicked can be shut down: the
call answers, without a timeout or a failure on the way, and the worker is joined. -/
theorem can_shut_down (h : system.Run start labels s) (howner : s.owner = .idle)
    (hcalm : s.thread ≠ .panicked) :
    ∃ later action result s',
      system.Run s (later ++ [(action, .shutDown result)]) s' ∧
      (∀ l ∈ later, l.1.sound = true ∧ l.2 = .silent) ∧ s'.thread = .exited ∧
      s'.worker = false := by
  have hcoherent := coherent_of_run h
  cases hworker : s.worker with
  | false =>
    -- It was shut down before.
    have hrelies := hcoherent.relies
    unfold Relies at hrelies
    rw [howner] at hrelies
    refine ⟨[], .owner .shutdown, .ok (), { s with owner := .idle },
      TransitionSystem.run_cons.mpr ⟨_, ?_, rfl⟩, fun _ hmem => absurd hmem List.not_mem_nil,
      (hrelies.2 hworker).1, hworker⟩
    show s.ownerStep .shutdown = _
    dsimp only [ownerStep]
    rw [if_pos howner]
    unfold beginShutdown
    rw [if_neg (by rw [hworker]; exact Bool.false_ne_true)]
    rfl
  | true =>
    obtain ⟨later, t, hrun, -, hsound, ⟨ht, hreporting⟩⟩ :=
      TransitionSystem.exists_run_of_lt (S := system) (I := Shuts)
        (G := fun t => t.Coherent ∧ t.owner = .reporting .shutdown)
        (P := fun l => l.1.sound = true ∧ l.2 = .silent)
        (μ := fun t => t.thread.work + t.owner.work)
        (fun t ht => ht.exists_step.imp_left fun howner => ⟨ht.coherent, howner⟩)
        (show s.Shuts from ⟨hcoherent, hcalm, .inl ⟨howner, hworker⟩⟩)
    have hrelies := ht.relies
    unfold Relies at hrelies
    rw [hreporting] at hrelies
    obtain ⟨result, hreport⟩ : ∃ result, t.step (.owner .report)
        = some (.shutDown result, { t with owner := .idle }) := by
      show ∃ result, t.ownerStep .report = _
      dsimp only [ownerStep, report]
      rw [hreporting]
      dsimp only
      split
      next message _ => exact ⟨.error message, rfl⟩
      next => exact ⟨.ok (), rfl⟩
    exact ⟨later, .owner .report, result, _, TransitionSystem.run_snoc.mpr ⟨t, hrun, hreport⟩,
      hsound, hrelies.1, hrelies.2.1⟩

/-- A service that was started can be shut down. -/
theorem can_shut_down_started :
    ∃ later action result s',
      system.Run startRun.2 (later ++ [(action, .shutDown result)]) s' ∧
      (∀ l ∈ later, l.1.sound = true ∧ l.2 = .silent) ∧ s'.thread = .exited ∧
      s'.worker = false := by
  have hstart : system.Run start startRun.1 startRun.2 :=
    TransitionSystem.run_of_trace_isSome (by decide)
  exact can_shut_down hstart rfl (by rintro ⟨⟩)

end ManagedService

end ResonanceSignal
