import ResonanceSignal.Agent.FailureAgreement
import ResonanceSignal.Lib.Channel
import ResonanceSignal.Lib.Transition

/-!
# The owner of a capture

`CaptureOwner` of `windows.rs`: one capture run on a worker thread, its single start, and the waits
for its completion. The owner, its worker and the channel between them make a transition system. A
call that blocks is two or three steps, between which the worker goes on and anyone may request a
stop; a worker finishes, fails or panics at any time.

Four optional fields and a flag hold the lifecycle. `Lifecycle` says which of their values occur
together, and where the worker is then. From it follow what a caller may rely on (`SingleUse`).

The owner's closures are what they are called with and whether they are still there.
-/

namespace ResonanceSignal

/-- The fields of a `CaptureOwner`, without the token that it shares with others. -/
structure CaptureOwner where
  /-- Whether the runner is still there. -/
  runner : Bool
  /-- Whether the callback is still there. -/
  onEvent : Bool
  /-- Whether the owner holds the handle of its worker. -/
  worker : Bool
  /-- Whether the owner holds the receiving end of the worker's channel. -/
  completionRx : Bool
  /-- The completion. -/
  completion : Option CaptureOwnerCompletion
  /-- Whether the owner was started. -/
  startCalled : Bool
deriving DecidableEq

namespace CaptureOwner

/-! ## The owner and its worker -/

/-- `CaptureOwner::new` -/
def new : CaptureOwner := ⟨true, true, false, false, none, false⟩

/-- How the runner ends. -/
inductive RunnerOutcome
  | returned (result : Except CaptureRunError CaptureReport)
  | panicked

/-- What the worker makes of it. -/
def RunnerOutcome.completion : RunnerOutcome → CaptureOwnerCompletion
  | returned result => workerCompletion result
  | panicked => .panicked

/-- Where the worker is: before its runner, in it, before and after it sends the completion, and
gone, with or without a panic outside of its runner. -/
inductive Worker
  | spawned
  | running
  | sending (completion : CaptureOwnerCompletion)
  | ending
  | exited (panicked : Bool)
deriving DecidableEq

/-- The blocking operation that a call of the owner is in. -/
inductive Pending
  | idle
  | receiving (timeout : Duration)
  | joining
deriving DecidableEq

/-- An owner with what it shares with others. -/
structure State where
  /-- The owner. -/
  owner : CaptureOwner
  /-- Whether a stop was requested. -/
  stopRequested : Bool
  /-- The worker, if one was spawned. -/
  thread : Option Worker
  /-- The channel for the completion. -/
  channel : Channel CaptureOwnerCompletion 1
  /-- The call that blocks. -/
  call : Pending
deriving DecidableEq

/-- The steps of a worker. -/
inductive WorkerAction
  | invoke
  | finish (outcome : RunnerOutcome)
  | send
  | exit
  | panic

/-- The calls of an owner, the ends of what they block on, and the steps of its worker. -/
inductive Action
  | start (spawnError : Option String)
  | requestStop
  | shutdown (timeout : Duration)
  | waitForCompletion (timeout : Duration)
  | receive (expired : Bool)
  | join
  | worker (action : WorkerAction)

/-- What a step shows: the result of a call, the invocation of the runner, or an `expect` that does
not hold. -/
inductive Output
  | silent
  | started (result : Except CaptureOwnerStartError CaptureOwnerStart)
  | waited (answer : Except CaptureOwnerShutdownTimeout CaptureOwnerCompletion)
  | invoked
  | expectFailed

namespace State

/-- An owner that was not started. -/
def initial : State := ⟨CaptureOwner.new, false, none, .empty, .idle⟩

/-- `start`, with the error of the system where no thread can be spawned. -/
def start (s : State) (spawnError : Option String) : Output × State :=
  if s.owner.startCalled then (.started (.error .alreadyStarted), s)
  else if s.stopRequested then
    (.started (.ok .stopAlreadyRequested),
      { s with owner := { s.owner with
          startCalled := true, runner := false, onEvent := false,
          completion := some .stoppedBeforeStart } })
  else if s.owner.runner = false then
    (.expectFailed, { s with owner := { s.owner with startCalled := true } })
  else if s.owner.onEvent = false then
    (.expectFailed, { s with owner := { s.owner with startCalled := true, runner := false } })
  else
    match spawnError with
    | some error =>
      (.started (.error (.spawn error)),
        { s with owner := { s.owner with
            startCalled := true, runner := false, onEvent := false,
            completion := some (.startFailed error) } })
    | none =>
      (.started (.ok .started),
        { s with
          owner := { s.owner with
            startCalled := true, runner := false, onEvent := false,
            worker := true, completionRx := true }
          thread := some .spawned
          channel := .empty })

/-- `request_stop`, of the owner or of a clone of its token. -/
def requestStop (s : State) : State := { s with stopRequested := true }

/-- `wait_for_completion`, up to where it blocks. -/
def waitForCompletion (s : State) (timeout : Duration) : Output × State :=
  match s.owner.completion with
  | some completion => (.waited (.ok completion), s)
  | none =>
    if s.owner.completionRx then (.silent, { s with call := .receiving timeout })
    else (.waited (.error ⟨timeout⟩), s)

/-- `shutdown`, up to where it blocks. -/
def shutdown (s : State) (timeout : Duration) : Output × State :=
  let s := s.requestStop
  if s.owner.startCalled then s.waitForCompletion timeout
  else
    { s with owner := { s.owner with
        startCalled := true, runner := false, onEvent := false,
        completion := some .stoppedBeforeStart } }.waitForCompletion timeout

/-- The end of `wait_for_completion`. -/
def completed (s : State) : Output × State :=
  match s.owner.completion with
  | some completion => (.waited (.ok completion), { s with call := .idle })
  | none => (.expectFailed, { s with call := .idle })

/-- A completion is stored, the receiver is dropped, and the worker is joined next, if the owner
still holds it. -/
def store (s : State) (completion : CaptureOwnerCompletion) : Output × State :=
  let s := { s with
    owner := { s.owner with completion := some completion, completionRx := false }
    channel := s.channel.dropReceiver }
  if s.owner.worker then
    (.silent, { s with owner := { s.owner with worker := false }, call := .joining })
  else s.completed

/-- `recv_timeout` returns to `wait_for_completion`. -/
def receive (s : State) (expired : Bool) : Option (Output × State) :=
  match s.call with
  | .receiving timeout =>
    match s.channel.tryRecv with
    | .ok (completion, channel) => some ({ s with channel }.store completion)
    | .error .empty =>
      if expired then some (.waited (.error ⟨timeout⟩), { s with call := .idle }) else none
    | .error .disconnected => some (s.store .panicked)
  | _ => none

/-- `join` returns to `join_worker`. -/
def join (s : State) : Option (Output × State) :=
  match s.call, s.thread with
  | .joining, some (.exited panicked) =>
    if panicked then
      some ({ s with owner := { s.owner with completion := some .panicked } }.completed)
    else some s.completed
  | _, _ => none

/-- A step of the worker. Its end of the channel is dropped as it ends. -/
def workerStep (s : State) (action : WorkerAction) : Option (Output × State) :=
  match s.thread, action with
  | some .spawned, .invoke => some (.invoked, { s with thread := some .running })
  | some .running, .finish outcome =>
    some (.silent, { s with thread := some (.sending outcome.completion) })
  | some (.sending completion), .send =>
    match s.channel.send completion with
    | none => none
    | some none => some (.silent, { s with thread := some .ending })
    | some (some channel) => some (.silent, { s with thread := some .ending, channel })
  | some (.sending _), .panic | some .ending, .panic =>
    some (.silent, { s with thread := some (.exited true), channel := s.channel.dropSender })
  | some .ending, .exit =>
    some (.silent, { s with thread := some (.exited false), channel := s.channel.dropSender })
  | _, _ => none

/-- One step. A call of the owner takes it exclusively. -/
def step (s : State) : Action → Option (Output × State)
  | .start spawnError => if s.call = .idle then some (s.start spawnError) else none
  | .requestStop => some (.silent, s.requestStop)
  | .shutdown timeout => if s.call = .idle then some (s.shutdown timeout) else none
  | .waitForCompletion timeout =>
    if s.call = .idle then some (s.waitForCompletion timeout) else none
  | .receive expired => s.receive expired
  | .join => s.join
  | .worker action => s.workerStep action

end State

/-- The owner and its worker. -/
def system : TransitionSystem State (Action × Output) := TransitionSystem.ofFn State.step

/-! ## The lifecycle -/

/-- The fields of an owner whose worker was spawned and has not been joined. -/
def busy : CaptureOwner := ⟨false, false, true, true, none, true⟩

/-- The fields of an owner with a completion. -/
def done (completion : CaptureOwnerCompletion) : CaptureOwner :=
  ⟨false, false, false, false, some completion, true⟩

/-- A worker has not sent anything before it sends its completion, and its owner still receives. -/
def Unsent (worker : Worker) (channel : Channel CaptureOwnerCompletion 1) : Prop :=
  match worker with
  | .spawned | .running | .sending _ => channel.queue = [] ∧ channel.receiver = true
  | .ending => True
  | .exited _ => channel.sender = false

/-- The values of an owner's fields that occur together: before it is started, while its worker
runs, while the worker is joined, and from then on. -/
inductive Lifecycle : State → Prop
  | inert (stop : Bool) (channel : Channel CaptureOwnerCompletion 1) :
    Lifecycle ⟨CaptureOwner.new, stop, none, channel, .idle⟩
  | working (stop : Bool) (worker : Worker) (channel : Channel CaptureOwnerCompletion 1)
      (call : Pending) (hcall : call ≠ .joining) (hunsent : Unsent worker channel) :
    Lifecycle ⟨busy, stop, some worker, channel, call⟩
  | joining (stop : Bool) (worker : Worker) (channel : Channel CaptureOwnerCompletion 1)
      (completion : CaptureOwnerCompletion) (hreceiver : channel.receiver = false) :
    Lifecycle ⟨done completion, stop, some worker, channel, .joining⟩
  | settled (stop : Bool) (thread : Option Worker) (channel : Channel CaptureOwnerCompletion 1)
      (completion : CaptureOwnerCompletion)
      (hthread : ∀ worker, thread = some worker → ∃ panicked, worker = .exited panicked) :
    Lifecycle ⟨done completion, stop, thread, channel, .idle⟩

/-- A step of a worker: the first one invokes the runner, and no other one does. -/
inductive WorkerEffect : Worker → Output → Worker → Prop
  | invoked : WorkerEffect .spawned .invoked .running
  | later {worker worker' : Worker} (h : worker ≠ .spawned) (h' : worker' ≠ .spawned)
      (hexited : ∀ panicked, worker ≠ .exited panicked) : WorkerEffect worker .silent worker'

/-- What one step does, by where the owner is in its lifecycle. -/
inductive Effect : State → Action × Output → State → Prop
  | startStopped (spawnError : Option String) (channel : Channel CaptureOwnerCompletion 1) :
    Effect ⟨CaptureOwner.new, true, none, channel, .idle⟩
      (.start spawnError, .started (.ok .stopAlreadyRequested))
      ⟨done .stoppedBeforeStart, true, none, channel, .idle⟩
  | startFailed (error : String) (channel : Channel CaptureOwnerCompletion 1) :
    Effect ⟨CaptureOwner.new, false, none, channel, .idle⟩
      (.start (some error), .started (.error (.spawn error)))
      ⟨done (.startFailed error), false, none, channel, .idle⟩
  | started (channel : Channel CaptureOwnerCompletion 1) :
    Effect ⟨CaptureOwner.new, false, none, channel, .idle⟩
      (.start none, .started (.ok .started))
      ⟨busy, false, some .spawned, .empty, .idle⟩
  | startRefused (s : State) (spawnError : Option String) (h : s.owner.startCalled = true) :
    Effect s (.start spawnError, .started (.error .alreadyStarted)) s
  | stopRequested (s : State) : Effect s (.requestStop, .silent) s.requestStop
  | shutdownInert (stop : Bool) (channel : Channel CaptureOwnerCompletion 1) (timeout : Duration) :
    Effect ⟨CaptureOwner.new, stop, none, channel, .idle⟩
      (.shutdown timeout, .waited (.ok .stoppedBeforeStart))
      ⟨done .stoppedBeforeStart, true, none, channel, .idle⟩
  | waitInert (stop : Bool) (channel : Channel CaptureOwnerCompletion 1) (timeout : Duration) :
    Effect ⟨CaptureOwner.new, stop, none, channel, .idle⟩
      (.waitForCompletion timeout, .waited (.error ⟨timeout⟩))
      ⟨CaptureOwner.new, stop, none, channel, .idle⟩
  | waitBlocks (stop stop' : Bool) (worker : Worker) (channel : Channel CaptureOwnerCompletion 1)
      (timeout : Duration) (action : Action)
      (haction : action = .shutdown timeout ∧ stop' = true ∨
        action = .waitForCompletion timeout ∧ stop' = stop) :
    Effect ⟨busy, stop, some worker, channel, .idle⟩ (action, .silent)
      ⟨busy, stop', some worker, channel, .receiving timeout⟩
  | waitAnswered (stop stop' : Bool) (thread : Option Worker)
      (channel : Channel CaptureOwnerCompletion 1) (completion : CaptureOwnerCompletion)
      (timeout : Duration) (action : Action)
      (haction : action = .shutdown timeout ∧ stop' = true ∨
        action = .waitForCompletion timeout ∧ stop' = stop) :
    Effect ⟨done completion, stop, thread, channel, .idle⟩ (action, .waited (.ok completion))
      ⟨done completion, stop', thread, channel, .idle⟩
  | expired (stop : Bool) (worker : Worker) (channel : Channel CaptureOwnerCompletion 1)
      (timeout : Duration) :
    Effect ⟨busy, stop, some worker, channel, .receiving timeout⟩
      (.receive true, .waited (.error ⟨timeout⟩)) ⟨busy, stop, some worker, channel, .idle⟩
  | received (stop expired : Bool) (worker : Worker)
      (channel channel' : Channel CaptureOwnerCompletion 1) (timeout : Duration)
      (completion : CaptureOwnerCompletion) (h : channel'.receiver = false) :
    Effect ⟨busy, stop, some worker, channel, .receiving timeout⟩ (.receive expired, .silent)
      ⟨done completion, stop, some worker, channel', .joining⟩
  | joined (stop panicked : Bool) (channel : Channel CaptureOwnerCompletion 1)
      (completion completion' : CaptureOwnerCompletion) :
    Effect ⟨done completion, stop, some (.exited panicked), channel, .joining⟩
      (.join, .waited (.ok completion'))
      ⟨done completion', stop, some (.exited panicked), channel, .idle⟩
  | worked (s : State) (worker worker' : Worker) (channel : Channel CaptureOwnerCompletion 1)
      (action : WorkerAction) (output : Output) (hthread : s.thread = some worker)
      (h : WorkerEffect worker output worker') (hreceiver : channel.receiver = s.channel.receiver)
      (hunsent : Unsent worker s.channel → Unsent worker' channel) :
    Effect s (.worker action, output) { s with thread := some worker', channel }

/-- A step of the worker has the effect of one. -/
theorem Effect.of_workerStep {s s' : State} {action : WorkerAction} {output : Output}
    (h : s.workerStep action = some (output, s')) : Effect s (.worker action, output) s' := by
  unfold State.workerStep at h
  split at h
  next hthread =>
    cases h
    exact .worked s .spawned .running s.channel _ _ hthread .invoked rfl id
  next outcome hthread =>
    cases h
    refine .worked s .running (.sending outcome.completion) s.channel _ _ hthread ?_ rfl id
    exact .later (by rintro ⟨⟩) (by rintro ⟨⟩) (by rintro _ ⟨⟩)
  next completion hthread =>
    have hlater : WorkerEffect (.sending completion) .silent .ending :=
      .later (by rintro ⟨⟩) (by rintro ⟨⟩) (by rintro _ ⟨⟩)
    split at h
    next => cases h
    next =>
      cases h
      exact .worked s (.sending completion) .ending s.channel _ _ hthread hlater rfl fun _ => trivial
    next channel hsend =>
      cases h
      have hreceiver : channel.receiver = s.channel.receiver := by
        obtain ⟨h₁, -, -, -, h₂⟩ := Channel.trySend_ok_iff.mp (Channel.send_eq_some_some.mp hsend)
        rw [h₁, h₂]
      exact .worked s (.sending completion) .ending channel _ _ hthread hlater hreceiver
        fun _ => trivial
  next completion hthread =>
    cases h
    refine .worked s (.sending completion) (.exited true) s.channel.dropSender _ _ hthread ?_ rfl
      fun _ => rfl
    exact .later (by rintro ⟨⟩) (by rintro ⟨⟩) (by rintro _ ⟨⟩)
  next hthread =>
    cases h
    refine .worked s .ending (.exited true) s.channel.dropSender _ _ hthread ?_ rfl fun _ => rfl
    exact .later (by rintro ⟨⟩) (by rintro ⟨⟩) (by rintro _ ⟨⟩)
  next hthread =>
    cases h
    refine .worked s .ending (.exited false) s.channel.dropSender _ _ hthread ?_ rfl fun _ => rfl
    exact .later (by rintro ⟨⟩) (by rintro ⟨⟩) (by rintro _ ⟨⟩)
  next => cases h

/-- A start does what the lifecycle lets it do. -/
theorem Effect.of_start {s : State} (hs : Lifecycle s) (hcall : s.call = .idle)
    (spawnError : Option String) :
    Effect s (.start spawnError, (s.start spawnError).1) (s.start spawnError).2 := by
  cases hs with
  | inert stop channel =>
    cases stop with
    | true => exact .startStopped spawnError channel
    | false =>
      cases spawnError with
      | none => exact .started channel
      | some error => exact .startFailed error channel
  | working stop worker channel call => exact .startRefused _ spawnError rfl
  | joining => cases hcall
  | settled => exact .startRefused _ spawnError rfl

/-- An owner was started, or nothing was called that starts it. -/
theorem Lifecycle.inert_or_started {s : State} (hs : Lifecycle s) :
    (∃ stop channel, s = ⟨CaptureOwner.new, stop, none, channel, .idle⟩) ∨
      s.owner.startCalled = true := by
  cases hs with
  | inert stop channel => exact .inl ⟨stop, channel, rfl⟩
  | working | joining | settled => exact .inr rfl

/-- A wait for an owner that was started blocks or is answered, and so does the wait that a shutdown
ends in. -/
theorem Effect.of_waitForCompletion {s : State} (hs : Lifecycle s) (hcall : s.call = .idle)
    (hstarted : s.owner.startCalled = true) {timeout : Duration} {action : Action} {stop : Bool}
    (haction : action = .shutdown timeout ∧ stop = true ∨
      action = .waitForCompletion timeout ∧ stop = s.stopRequested) :
    Effect s (action, ({ s with stopRequested := stop }.waitForCompletion timeout).1)
      ({ s with stopRequested := stop }.waitForCompletion timeout).2 := by
  cases hs with
  | inert => cases hstarted
  | working stop' worker channel call =>
    cases hcall
    exact .waitBlocks stop' stop worker channel timeout action haction
  | joining => cases hcall
  | settled stop' thread channel completion =>
    exact .waitAnswered stop' stop thread channel completion timeout action haction

/-- A wait does what the lifecycle lets it do. -/
theorem Effect.of_wait {s : State} (hs : Lifecycle s) (hcall : s.call = .idle)
    (timeout : Duration) :
    Effect s (.waitForCompletion timeout, (s.waitForCompletion timeout).1)
      (s.waitForCompletion timeout).2 := by
  rcases hs.inert_or_started with ⟨stop, channel, rfl⟩ | hstarted
  · exact .waitInert stop channel timeout
  · exact Effect.of_waitForCompletion hs hcall hstarted (.inr ⟨rfl, rfl⟩)

/-- A shutdown requests a stop and does what the lifecycle lets a wait do. -/
theorem Effect.of_shutdown {s : State} (hs : Lifecycle s) (hcall : s.call = .idle)
    (timeout : Duration) :
    Effect s (.shutdown timeout, (s.shutdown timeout).1) (s.shutdown timeout).2 := by
  rcases hs.inert_or_started with ⟨stop, channel, rfl⟩ | hstarted
  · exact .shutdownInert stop channel timeout
  · have heq : s.shutdown timeout = s.requestStop.waitForCompletion timeout := if_pos hstarted
    rw [heq]
    exact Effect.of_waitForCompletion hs hcall hstarted (.inl ⟨rfl, rfl⟩)

/-- What a blocked wait receives, or that it expires. -/
theorem Effect.of_receive {s s' : State} (hs : Lifecycle s) {expired : Bool} {output : Output}
    (h : s.receive expired = some (output, s')) : Effect s (.receive expired, output) s' := by
  cases hs with
  | inert => cases h
  | joining => cases h
  | settled => cases h
  | working stop worker channel call hcall =>
    cases call with
    | idle => cases h
    | joining => cases h
    | receiving timeout =>
      unfold State.receive at h
      dsimp only at h
      split at h
      next completion channel' hrecv =>
        cases h
        exact .received stop expired worker channel _ timeout completion rfl
      next =>
        split_ifs at h with hexpired
        cases h
        rw [hexpired]
        exact .expired stop worker channel timeout
      next =>
        cases h
        exact .received stop expired worker channel _ timeout .panicked rfl

/-- The end of a join. -/
theorem Effect.of_join {s s' : State} (hs : Lifecycle s) {output : Output}
    (h : s.join = some (output, s')) : Effect s (.join, output) s' := by
  unfold State.join at h
  cases hs with
  | inert => cases h
  | settled => cases h
  | working stop worker channel call hcall =>
    cases call with
    | idle => cases h
    | receiving => cases h
    | joining => exact absurd rfl hcall
  | joining stop worker channel completion =>
    cases worker with
    | spawned => cases h
    | running => cases h
    | sending => cases h
    | ending => cases h
    | exited panicked =>
      cases panicked with
      | true =>
        cases h
        exact .joined stop true channel completion .panicked
      | false =>
        cases h
        exact .joined stop false channel completion completion

/-- A step has one of these effects. -/
theorem Effect.of_step {s s' : State} {l : Action × Output} (hs : Lifecycle s)
    (h : system.step s l s') : Effect s l s' := by
  obtain ⟨action, output⟩ := l
  have hstep : s.step action = some (output, s') := h
  cases action with
  | start spawnError =>
    obtain ⟨hcall, heq⟩ := Option.ite_none_right_eq_some.mp hstep
    have heffect := Effect.of_start hs hcall spawnError
    rwa [Option.some.inj heq] at heffect
  | requestStop =>
    cases hstep
    exact .stopRequested s
  | shutdown timeout =>
    obtain ⟨hcall, heq⟩ := Option.ite_none_right_eq_some.mp hstep
    have heffect := Effect.of_shutdown hs hcall timeout
    rwa [Option.some.inj heq] at heffect
  | waitForCompletion timeout =>
    obtain ⟨hcall, heq⟩ := Option.ite_none_right_eq_some.mp hstep
    have heffect := Effect.of_wait hs hcall timeout
    rwa [Option.some.inj heq] at heffect
  | receive expired => exact Effect.of_receive hs hstep
  | join => exact Effect.of_join hs hstep
  | worker action => exact Effect.of_workerStep hstep

/-- The lifecycle goes on. -/
theorem Effect.lifecycle {s s' : State} {l : Action × Output} (h : Effect s l s')
    (hs : Lifecycle s) : Lifecycle s' := by
  cases h with
  | startStopped => exact .settled _ _ _ _ (by rintro _ ⟨⟩)
  | startFailed => exact .settled _ _ _ _ (by rintro _ ⟨⟩)
  | started => exact .working _ _ _ _ (by rintro ⟨⟩) ⟨rfl, rfl⟩
  | startRefused => exact hs
  | stopRequested =>
    cases hs with
    | inert stop channel => exact .inert true channel
    | working stop worker channel call hcall hunsent =>
      exact .working true worker channel call hcall hunsent
    | joining stop worker channel completion hreceiver =>
      exact .joining true worker channel completion hreceiver
    | settled stop thread channel completion hthread =>
      exact .settled true thread channel completion hthread
  | shutdownInert => exact .settled _ _ _ _ (by rintro _ ⟨⟩)
  | waitInert => exact hs
  | waitBlocks =>
    cases hs with
    | working _ _ _ _ _ hunsent => exact .working _ _ _ _ (by rintro ⟨⟩) hunsent
  | waitAnswered =>
    cases hs with
    | settled _ _ _ _ hthread => exact .settled _ _ _ _ hthread
  | expired =>
    cases hs with
    | working _ _ _ _ _ hunsent => exact .working _ _ _ _ (by rintro ⟨⟩) hunsent
  | received stop expired worker channel channel' timeout completion hreceiver =>
    exact .joining stop worker channel' completion hreceiver
  | joined => exact .settled _ _ _ _ (by rintro _ ⟨⟩; exact ⟨_, rfl⟩)
  | worked s worker worker' channel' action output hthread h hreceiver hunsent' =>
    cases hs with
    | inert => cases hthread
    | working stop worker channel call hcall hunsent =>
      cases hthread
      exact .working stop worker' channel' call hcall (hunsent' hunsent)
    | joining stop worker channel completion hclosed =>
      exact .joining stop worker' channel' completion (hreceiver.trans hclosed)
    | settled stop thread channel completion hexited =>
      -- A worker that is gone makes no step.
      obtain ⟨panicked, rfl⟩ := hexited worker hthread
      cases h with
      | later h₁ h₂ hne => exact absurd rfl (hne panicked)

/-- Every run follows the lifecycle. -/
theorem run_lifecycle {ls : List (Action × Output)} {s : State}
    (h : system.Run State.initial ls s) : Lifecycle s :=
  TransitionSystem.Run.invariant (S := system) (.inert false .empty)
    (fun _ _ _ hs hstep => (Effect.of_step hs hstep).lifecycle hs) h

/-! ## What the steps of a run show -/

/-- A call of `start`. -/
def Starts (l : Action × Output) : Prop := ∃ spawnError, l.1 = .start spawnError

/-- A call of `shutdown`. -/
def ShutsDown (l : Action × Output) : Prop := ∃ timeout, l.1 = .shutdown timeout

/-- A call of `shutdown` or `wait_for_completion`. -/
def Waits (l : Action × Output) : Prop := ShutsDown l ∨ ∃ timeout, l.1 = .waitForCompletion timeout

/-- Whether the runner is invoked. -/
def Output.isInvoked : Output → Bool
  | invoked => true
  | _ => false

/-- The number of times that the runner is invoked. -/
def invocations (ls : List (Action × Output)) : ℕ := ls.countP fun l => l.2.isInvoked

/-- A stop or a shutdown was requested before any start. -/
def StoppedFirst (ls : List (Action × Output)) : Prop :=
  ∃ before after, ls = before ++ after ∧ (∀ l ∈ before, ¬Starts l) ∧
    ∃ l ∈ before, l.1 = .requestStop ∨ ShutsDown l

/-- The steps of one call of `shutdown` or `wait_for_completion`, from the call to its answer, with
the steps of others between them where it blocks. -/
inductive Wait : List (Action × Output) →
    Except CaptureOwnerShutdownTimeout CaptureOwnerCompletion → Prop
  | immediate {l : Action × Output}
      {answer : Except CaptureOwnerShutdownTimeout CaptureOwnerCompletion} (h : Waits l)
      (hanswer : l.2 = .waited answer) : Wait [l] answer
  | blocking {first last : Action × Output} {between : List (Action × Output)}
      {answer : Except CaptureOwnerShutdownTimeout CaptureOwnerCompletion} (h : Waits first)
      (hfirst : first.2 = .silent) (hbetween : ∀ l ∈ between, ∀ answer', l.2 ≠ .waited answer')
      (hanswer : last.2 = .waited answer) : Wait (first :: (between ++ [last])) answer

/-- The number of invocations of the runner, by where the worker is. -/
def State.invoked (s : State) : ℕ :=
  match s.thread with
  | none | some .spawned => 0
  | _ => 1

/-- A worker past its first step has invoked the runner. -/
theorem State.invoked_of_ne {s : State} {worker : Worker} (hthread : s.thread = some worker)
    (h : worker ≠ .spawned) : s.invoked = 1 := by
  unfold State.invoked
  rw [hthread]
  cases worker <;> first | rfl | exact absurd rfl h

/-- A step invokes the runner as often as it says. -/
theorem Effect.invoked {s s' : State} {l : Action × Output} (h : Effect s l s') :
    s'.invoked = s.invoked + (if l.2.isInvoked then 1 else 0) := by
  cases h with
  | worked s worker worker' channel action output hthread h hreceiver hunsent =>
    cases h with
    | invoked =>
      unfold State.invoked
      rw [hthread]
      rfl
    | later hne hne' =>
      rw [State.invoked_of_ne hthread hne]
      exact State.invoked_of_ne rfl hne'
  | _ => rfl

/-- The runner was invoked as often as the worker's place says. -/
theorem run_invocations {s₀ s : State} {ls : List (Action × Output)} (hs₀ : Lifecycle s₀)
    (h : system.Run s₀ ls s) : Lifecycle s ∧ s.invoked = s₀.invoked + invocations ls := by
  apply TransitionSystem.Run.history (S := system)
    (I := fun ls s => Lifecycle s ∧ s.invoked = s₀.invoked + invocations ls) _ _ h
  · exact ⟨hs₀, rfl⟩
  · intro ls s l s' hrun hi hstep
    obtain ⟨hs, hcount⟩ := hi
    have heffect := Effect.of_step hs hstep
    refine ⟨heffect.lifecycle hs, ?_⟩
    rw [heffect.invoked, hcount, invocations, invocations, List.countP_append,
      List.countP_singleton, Nat.add_assoc]

/-- A requested stop stays requested, and a stop or a shutdown requests one. -/
theorem Effect.stop {s s' : State} {l : Action × Output} (h : Effect s l s')
    (hl : s.stopRequested = true ∨ l.1 = .requestStop ∨ ShutsDown l) :
    s'.stopRequested = true := by
  -- A step that is neither of the two keeps the flag.
  have hkeep {stop : Bool} {action : Action} (hne : action ≠ .requestStop)
      (hne' : ∀ timeout, action ≠ .shutdown timeout)
      (hl : stop = true ∨ action = .requestStop ∨ ∃ timeout, action = .shutdown timeout) :
      stop = true := by
    rcases hl with hl | hl | ⟨timeout, hl⟩
    · exact hl
    · exact absurd hl hne
    · exact absurd hl (hne' timeout)
  cases h with
  | startStopped => rfl
  | stopRequested => rfl
  | shutdownInert => rfl
  | waitBlocks stop stop' worker channel timeout action haction =>
    rcases haction with ⟨rfl, hstop⟩ | ⟨rfl, rfl⟩
    · exact hstop
    · exact hkeep (by rintro ⟨⟩) (by rintro _ ⟨⟩) hl
  | waitAnswered stop stop' thread channel completion timeout action haction =>
    rcases haction with ⟨rfl, hstop⟩ | ⟨rfl, rfl⟩
    · exact hstop
    · exact hkeep (by rintro ⟨⟩) (by rintro _ ⟨⟩) hl
  | _ => exact hkeep (by rintro ⟨⟩) (by rintro _ ⟨⟩) hl

/-- Without a worker, only a start without a requested stop spawns one. -/
theorem Effect.thread_none {s s' : State} {l : Action × Output} (h : Effect s l s')
    (hthread : s.thread = none) (hl : Starts l → s.stopRequested = true) : s'.thread = none := by
  cases h with
  | started => cases hl ⟨_, rfl⟩
  | worked s worker worker' channel action output hsome =>
    rw [hthread] at hsome
    cases hsome
  | _ => exact hthread

/-- After a stop is requested without a worker, none is spawned. -/
theorem run_prevented {s₀ s : State} {ls : List (Action × Output)} (hs₀ : Lifecycle s₀)
    (hthread : s₀.thread = none) (hstop : s₀.stopRequested = true) (h : system.Run s₀ ls s) :
    s.thread = none := by
  have hinvariant : Lifecycle s ∧ s.thread = none ∧ s.stopRequested = true := by
    apply TransitionSystem.Run.invariant (S := system)
      (I := fun s => Lifecycle s ∧ s.thread = none ∧ s.stopRequested = true) _ _ h
    · exact ⟨hs₀, hthread, hstop⟩
    · intro s l s' hi hstep
      obtain ⟨hs, hnone, hrequested⟩ := hi
      have heffect := Effect.of_step hs hstep
      exact ⟨heffect.lifecycle hs, heffect.thread_none hnone fun _ => hrequested,
        heffect.stop (.inl hrequested)⟩
  exact hinvariant.2.1

/-- Before any start there is no worker, and the stop flag says whether a stop was requested. -/
theorem run_unstarted {s : State} {ls : List (Action × Output)} (h : system.Run .initial ls s)
    (hls : ∀ l ∈ ls, ¬Starts l) :
    s.thread = none ∧ ((∃ l ∈ ls, l.1 = .requestStop ∨ ShutsDown l) → s.stopRequested = true) := by
  induction ls using List.reverseRecOn generalizing s with
  | nil =>
    cases TransitionSystem.run_nil.mp h
    refine ⟨rfl, ?_⟩
    rintro ⟨l, hl, -⟩
    cases hl
  | append_singleton ls l ih =>
    obtain ⟨t, hrun, hstep⟩ := TransitionSystem.run_snoc.mp h
    obtain ⟨hnone, hstop⟩ := ih hrun fun e he => hls e (List.mem_append_left _ he)
    have heffect := Effect.of_step (run_lifecycle hrun) hstep
    have hl : ¬Starts l := hls l (by simp)
    refine ⟨heffect.thread_none hnone fun hstarts => absurd hstarts hl, ?_⟩
    rintro ⟨e, he, hrequest⟩
    apply heffect.stop
    rcases List.mem_append.mp he with he | he
    · exact .inl (hstop ⟨e, he, hrequest⟩)
    · rw [List.mem_singleton] at he
      exact .inr (he ▸ hrequest)

/-- The runner is invoked at most once. -/
theorem invocations_le {s : State} {ls : List (Action × Output)}
    (h : system.Run .initial ls s) : invocations ls ≤ 1 := by
  obtain ⟨-, hcount⟩ := run_invocations (.inert false .empty) h
  have hle : s.invoked ≤ 1 := by
    unfold State.invoked
    split <;> decide
  have hinitial : State.invoked .initial = 0 := rfl
  omega

/-- The runner is not invoked where a stop or a shutdown was requested before any start. -/
theorem invocations_eq_zero {s : State} {ls : List (Action × Output)}
    (h : system.Run .initial ls s) (hls : StoppedFirst ls) : invocations ls = 0 := by
  obtain ⟨before, after, rfl, hunstarted, hrequest⟩ := hls
  obtain ⟨t, hbefore, hafter⟩ := TransitionSystem.run_append.mp h
  obtain ⟨hnone, hstop⟩ := run_unstarted hbefore hunstarted
  have hthread := run_prevented (run_lifecycle hbefore) hnone (hstop hrequest) hafter
  obtain ⟨-, hcount⟩ := run_invocations (.inert false .empty) h
  have hinvoked : s.invoked = 0 := by
    unfold State.invoked
    rw [hthread]
  omega

/-- An owner that was started stays so, and a start or a shutdown starts it for good. -/
theorem Effect.startCalled {s s' : State} {l : Action × Output} (h : Effect s l s')
    (hl : s.owner.startCalled = true ∨ Starts l ∨ ShutsDown l) :
    s'.owner.startCalled = true := by
  cases h with
  | startRefused s spawnError hstarted => exact hstarted
  | stopRequested s =>
    rcases hl with hl | ⟨spawnError, hl⟩ | ⟨timeout, hl⟩
    · exact hl
    · cases hl
    · cases hl
  | waitInert =>
    rcases hl with hl | ⟨spawnError, hl⟩ | ⟨timeout, hl⟩
    · cases hl
    · cases hl
    · cases hl
  | worked =>
    rcases hl with hl | ⟨spawnError, hl⟩ | ⟨timeout, hl⟩
    · exact hl
    · cases hl
    · cases hl
  | _ => rfl

/-- A start of an owner that was started is refused. -/
theorem Effect.refused {s s' : State} {l : Action × Output} (h : Effect s l s')
    (hstarted : s.owner.startCalled = true) (hl : Starts l) :
    l.2 = .started (.error .alreadyStarted) := by
  cases h with
  | startRefused => rfl
  | startStopped => cases hstarted
  | startFailed => cases hstarted
  | started => cases hstarted
  | waitBlocks stop stop' worker channel timeout action haction =>
    obtain ⟨spawnError, rfl⟩ := hl
    rcases haction with ⟨haction, -⟩ | ⟨haction, -⟩ <;> cases haction
  | waitAnswered stop stop' thread channel completion timeout action haction =>
    obtain ⟨spawnError, rfl⟩ := hl
    rcases haction with ⟨haction, -⟩ | ⟨haction, -⟩ <;> cases haction
  | _ =>
    obtain ⟨spawnError, hl⟩ := hl
    cases hl

/-- After a start or a shutdown, the owner was started. -/
theorem run_startCalled {s : State} {ls : List (Action × Output)}
    (h : system.Run .initial ls s) (hls : ∃ l ∈ ls, Starts l ∨ ShutsDown l) :
    s.owner.startCalled = true := by
  induction ls using List.reverseRecOn generalizing s with
  | nil =>
    obtain ⟨l, hl, -⟩ := hls
    cases hl
  | append_singleton ls l ih =>
    obtain ⟨t, hrun, hstep⟩ := TransitionSystem.run_snoc.mp h
    have heffect := Effect.of_step (run_lifecycle hrun) hstep
    obtain ⟨e, he, hopens⟩ := hls
    apply heffect.startCalled
    rcases List.mem_append.mp he with he | he
    · exact .inl (ih hrun ⟨e, he, hopens⟩)
    · rw [List.mem_singleton] at he
      exact .inr (he ▸ hopens)

/-- No `expect` fails. -/
theorem Effect.no_panic {s s' : State} {l : Action × Output} (h : Effect s l s') :
    l.2 ≠ .expectFailed := by
  cases h with
  | worked s worker worker' channel action output hthread h =>
    cases h with
    | invoked => rintro ⟨⟩
    | later => rintro ⟨⟩
  | _ => rintro ⟨⟩

/-! ## Waits -/

/-- A wait is in progress that has not been answered. -/
def Blocked (s : State) : Prop :=
  (s.owner = busy ∧ ∃ timeout, s.call = .receiving timeout) ∨ s.call = .joining

/-- A wait stays in progress until it is answered. -/
theorem Effect.blocked {s s' : State} {l : Action × Output} (h : Effect s l s') (hs : Blocked s)
    (hl : ∀ answer, l.2 ≠ .waited answer) : Blocked s' := by
  cases h with
  | startRefused => exact hs
  | stopRequested => exact hs
  | worked => exact hs
  | received => exact .inr rfl
  | expired => exact absurd rfl (hl _)
  | joined => exact absurd rfl (hl _)
  | _ =>
    -- The other steps are calls of an owner that does not wait.
    rcases hs with ⟨-, timeout, hcall⟩ | hcall <;> cases hcall

/-- A wait in progress stays so along the steps of others. -/
theorem run_blocked {s₀ s : State} {ls : List (Action × Output)} (hs₀ : Lifecycle s₀)
    (hblocked : Blocked s₀) (hls : ∀ l ∈ ls, ∀ answer, l.2 ≠ .waited answer)
    (h : system.Run s₀ ls s) : Lifecycle s ∧ Blocked s := by
  induction ls using List.reverseRecOn generalizing s with
  | nil =>
    cases TransitionSystem.run_nil.mp h
    exact ⟨hs₀, hblocked⟩
  | append_singleton ls l ih =>
    obtain ⟨t, hrun, hstep⟩ := TransitionSystem.run_snoc.mp h
    obtain ⟨ht, hwaiting⟩ := ih (fun e he => hls e (List.mem_append_left _ he)) hrun
    have heffect := Effect.of_step ht hstep
    exact ⟨heffect.lifecycle ht, heffect.blocked hwaiting (hls l (by simp))⟩

/-- Where a wait in progress expires, the owner still has its worker. -/
theorem Effect.expires {s s' : State} {l : Action × Output} (h : Effect s l s') (hs : Blocked s)
    {error : CaptureOwnerShutdownTimeout} (hl : l.2 = .waited (.error error)) :
    s'.owner = busy := by
  cases h with
  | expired => rfl
  | waitInert => rcases hs with ⟨-, timeout, hcall⟩ | hcall <;> cases hcall
  | worked s worker worker' channel action output hthread h =>
    cases h with
    | invoked => cases hl
    | later => cases hl
  | _ => cases hl

/-- A wait that expires leaves the owner as it was, whatever others do meanwhile. -/
theorem wait_expires {s t : State} {ls : List (Action × Output)}
    {error : CaptureOwnerShutdownTimeout} (ht : Lifecycle t) (h : system.Run t ls s)
    (hwait : Wait ls (.error error)) : s.owner = t.owner := by
  cases hwait with
  | @immediate l _ hl hanswer =>
    obtain ⟨u, hstep, hrun⟩ := TransitionSystem.run_cons.mp h
    cases TransitionSystem.run_nil.mp hrun
    have heffect := Effect.of_step ht hstep
    cases heffect with
    | waitInert => rfl
    | expired =>
      rcases hl with ⟨timeout, hl⟩ | ⟨timeout, hl⟩ <;> cases hl
    | worked s worker worker' channel action output hthread hworker =>
      cases hworker with
      | invoked => cases hanswer
      | later => cases hanswer
    | _ => cases hanswer
  | @blocking first last between _ hfirst hsilent hbetween hanswer =>
    obtain ⟨u, hstep, hrun⟩ := TransitionSystem.run_cons.mp h
    obtain ⟨v, hwaiting, hlast⟩ := TransitionSystem.run_snoc.mp hrun
    have heffect := Effect.of_step ht hstep
    -- The call blocks, which only an owner with its worker does.
    have hbusy : t.owner = busy ∧ Blocked u := by
      cases heffect with
      | waitBlocks => exact ⟨rfl, .inl ⟨rfl, _, rfl⟩⟩
      | stopRequested => rcases hfirst with ⟨timeout, hl⟩ | ⟨timeout, hl⟩ <;> cases hl
      | received => rcases hfirst with ⟨timeout, hl⟩ | ⟨timeout, hl⟩ <;> cases hl
      | worked => rcases hfirst with ⟨timeout, hl⟩ | ⟨timeout, hl⟩ <;> cases hl
      | _ => cases hsilent
    -- It stays blocked until its answer.
    have hblocked : Lifecycle v ∧ Blocked v :=
      run_blocked (heffect.lifecycle ht) hbusy.2 hbetween hwaiting
    rw [hbusy.1]
    exact (Effect.of_step hblocked.1 hlast).expires hblocked.2 hanswer

/-! ## Completions -/

/-- The owner has its completion and has joined its worker, if there was one. -/
structure Joined (completion : CaptureOwnerCompletion) (s : State) : Prop where
  owner : s.owner = done completion
  call : s.call = .idle
  exited : ∀ worker, s.thread = some worker → ∃ panicked, worker = .exited panicked

/-- Only an owner that has joined its worker answers with a completion. -/
theorem Effect.joined_of_answer {s s' : State} {l : Action × Output} (h : Effect s l s')
    (hs : Lifecycle s) {completion : CaptureOwnerCompletion}
    (hl : l.2 = .waited (.ok completion)) : Joined completion s' := by
  cases h with
  | shutdownInert =>
    cases hl
    exact ⟨rfl, rfl, by rintro _ ⟨⟩⟩
  | waitAnswered =>
    cases hl
    cases hs with
    | settled _ _ _ _ hthread => exact ⟨rfl, rfl, hthread⟩
  | joined stop panicked =>
    cases hl
    exact ⟨rfl, rfl, by rintro _ ⟨⟩; exact ⟨panicked, rfl⟩⟩
  | worked s worker worker' channel action output hthread hworker =>
    cases hworker with
    | invoked => cases hl
    | later => cases hl
  | _ => cases hl

/-- An owner that has joined its worker stays so, and every further answer is its completion. -/
theorem Effect.stays_joined {s s' : State} {l : Action × Output} {completion : CaptureOwnerCompletion}
    (h : Effect s l s') (hs : Joined completion s) :
    Joined completion s' ∧ ∀ answer, l.2 = .waited answer → answer = .ok completion := by
  obtain ⟨howner, hcall, hexited⟩ := hs
  -- The owner has a completion, which one that is not started or waits has not.
  have hcompletion := congrArg CaptureOwner.completion howner
  cases h with
  | startRefused => exact ⟨⟨howner, hcall, hexited⟩, by rintro _ ⟨⟩⟩
  | stopRequested => exact ⟨⟨howner, hcall, hexited⟩, by rintro _ ⟨⟩⟩
  | waitAnswered =>
    cases hcompletion
    exact ⟨⟨rfl, rfl, hexited⟩, by rintro _ ⟨⟩; rfl⟩
  | joined => cases hcall
  | worked s worker worker' channel action output hthread hworker =>
    obtain ⟨panicked, rfl⟩ := hexited worker hthread
    cases hworker with
    | later h₁ h₂ hne => exact absurd rfl (hne panicked)
  | _ => cases hcompletion

/-- From there on, every answer of a run is the completion. -/
theorem run_joined {s₀ s : State} {ls : List (Action × Output)} (hs₀ : Lifecycle s₀)
    {completion : CaptureOwnerCompletion} (hjoined : Joined completion s₀)
    (h : system.Run s₀ ls s) :
    Joined completion s ∧ ∀ l ∈ ls, ∀ answer, l.2 = .waited answer → answer = .ok completion := by
  have hall : Lifecycle s ∧ Joined completion s ∧
      ∀ l ∈ ls, ∀ answer, l.2 = .waited answer → answer = .ok completion := by
    apply TransitionSystem.Run.history (S := system)
      (I := fun ls s => Lifecycle s ∧ Joined completion s ∧
        ∀ l ∈ ls, ∀ answer, l.2 = .waited answer → answer = .ok completion) _ _ h
    · exact ⟨hs₀, hjoined, by rintro _ ⟨⟩⟩
    · intro ls s l s' hrun hi hstep
      obtain ⟨hs, hjoined, hanswers⟩ := hi
      have heffect := Effect.of_step hs hstep
      obtain ⟨hjoined', hanswer⟩ := heffect.stays_joined hjoined
      refine ⟨heffect.lifecycle hs, hjoined', ?_⟩
      intro e he
      rcases List.mem_append.mp he with he | he
      · exact hanswers e he
      · rw [List.mem_singleton] at he
        exact he ▸ hanswer
  exact hall.2

/-! ## Another wait can succeed -/

/-- A run of the worker alone. -/
def WorkerRun (s : State) (s' : State) : Prop :=
  ∃ ls, system.Run s ls s' ∧ ∀ l ∈ ls, ∃ action, l.1 = .worker action

/-- A step of the worker before a run of the worker. -/
theorem WorkerRun.cons {s t s' : State} (action : WorkerAction) {output : Output}
    (hstep : s.workerStep action = some (output, t)) (h : WorkerRun t s') : WorkerRun s s' := by
  obtain ⟨ls, hrun, hls⟩ := h
  refine ⟨(.worker action, output) :: ls, ⟨t, hstep, hrun⟩, ?_⟩
  intro l hl
  rcases List.mem_cons.mp hl with rfl | hl
  · exact ⟨action, rfl⟩
  · exact hls l hl

/-- A worker can finish. -/
theorem exists_exited (stop : Bool) (worker : Worker) (channel : Channel CaptureOwnerCompletion 1)
    (hunsent : Unsent worker channel) :
    ∃ channel' panicked, channel'.sender = false ∧
      WorkerRun ⟨busy, stop, some worker, channel, .idle⟩
        ⟨busy, stop, some (.exited panicked), channel', .idle⟩ := by
  -- From the end: what has been sent only ends, and what was not sent is sent first.
  have hending (channel : Channel CaptureOwnerCompletion 1) : ∃ channel' panicked,
      channel'.sender = false ∧ WorkerRun ⟨busy, stop, some .ending, channel, .idle⟩
        ⟨busy, stop, some (.exited panicked), channel', .idle⟩ := by
    refine ⟨channel.dropSender, false, rfl, ?_⟩
    exact WorkerRun.cons .exit rfl ⟨[], rfl, by rintro _ ⟨⟩⟩
  have hsending (completion : CaptureOwnerCompletion) (hqueue : channel.queue = [])
      (hreceiver : channel.receiver = true) : ∃ channel' panicked,
      channel'.sender = false ∧ WorkerRun ⟨busy, stop, some (.sending completion), channel, .idle⟩
        ⟨busy, stop, some (.exited panicked), channel', .idle⟩ := by
    obtain ⟨sent, hsend⟩ : ∃ sent, channel.send completion = some (some sent) := by
      cases hsend : channel.send completion with
      | none =>
        have hfull := (Channel.send_eq_none.mp hsend).2
        rw [hqueue] at hfull
        cases hfull
      | some sent =>
        cases sent with
        | none =>
          rw [Channel.send_eq_some_none.mp hsend] at hreceiver
          cases hreceiver
        | some sent => exact ⟨sent, rfl⟩
    have hstep : State.workerStep ⟨busy, stop, some (.sending completion), channel, .idle⟩ .send
        = some (.silent, ⟨busy, stop, some .ending, sent, .idle⟩) := by
      unfold State.workerStep
      dsimp only
      rw [hsend]
    obtain ⟨channel', panicked, hsender, hrun⟩ := hending sent
    exact ⟨channel', panicked, hsender, hrun.cons .send hstep⟩
  cases worker with
  | spawned =>
    obtain ⟨channel', panicked, hsender, hrun⟩ := hsending .panicked hunsent.1 hunsent.2
    exact ⟨channel', panicked, hsender,
      (hrun.cons (.finish .panicked) rfl).cons .invoke rfl⟩
  | running =>
    obtain ⟨channel', panicked, hsender, hrun⟩ := hsending .panicked hunsent.1 hunsent.2
    exact ⟨channel', panicked, hsender, hrun.cons (.finish .panicked) rfl⟩
  | sending completion => exact hsending completion hunsent.1 hunsent.2
  | ending => exact hending channel
  | exited panicked => exact ⟨channel, panicked, hunsent, [], rfl, by rintro _ ⟨⟩⟩

/-- A wait for a worker that is gone is answered with a completion. -/
theorem exists_wait_exited (stop panicked : Bool) (channel : Channel CaptureOwnerCompletion 1)
    (hsender : channel.sender = false) (timeout : Duration) :
    ∃ ls s' completion, system.Run ⟨busy, stop, some (.exited panicked), channel, .idle⟩ ls s' ∧
      Wait ls (.ok completion) ∧
      ∃ output, ls.head? = some (.waitForCompletion timeout, output) := by
  -- The wait stores what it receives, and joins the worker.
  have hstored (completion : CaptureOwnerCompletion) (received : Channel CaptureOwnerCompletion 1)
      (hreceive : State.receive
        ⟨busy, stop, some (.exited panicked), channel, .receiving timeout⟩ false
          = some (.silent, ⟨done completion, stop, some (.exited panicked), received, .joining⟩)) :
      ∃ ls s' completion, system.Run ⟨busy, stop, some (.exited panicked), channel, .idle⟩ ls s' ∧
        Wait ls (.ok completion) ∧
        ∃ output, ls.head? = some (.waitForCompletion timeout, output) := by
    obtain ⟨final, hjoin⟩ : ∃ final, State.join
        ⟨done completion, stop, some (.exited panicked), received, .joining⟩
          = some (.waited (.ok final),
            ⟨done final, stop, some (.exited panicked), received, .idle⟩) := by
      cases panicked with
      | true => exact ⟨.panicked, rfl⟩
      | false => exact ⟨completion, rfl⟩
    have hwait : system.step ⟨busy, stop, some (.exited panicked), channel, .idle⟩
        (.waitForCompletion timeout, .silent)
        ⟨busy, stop, some (.exited panicked), channel, .receiving timeout⟩ := rfl
    have hreceived : system.step
        ⟨busy, stop, some (.exited panicked), channel, .receiving timeout⟩
        (.receive false, .silent)
        ⟨done completion, stop, some (.exited panicked), received, .joining⟩ := hreceive
    have hjoined : system.step
        ⟨done completion, stop, some (.exited panicked), received, .joining⟩
        (.join, .waited (.ok final))
        ⟨done final, stop, some (.exited panicked), received, .idle⟩ := hjoin
    refine ⟨(.waitForCompletion timeout, .silent) ::
      ([(.receive false, .silent)] ++ [(.join, .waited (.ok final))]), _, final,
      ⟨_, hwait, TransitionSystem.run_append.mpr ⟨_, ⟨_, hreceived, rfl⟩, _, hjoined, rfl⟩⟩,
      ?_, _, rfl⟩
    exact .blocking (.inr ⟨timeout, rfl⟩) rfl (by simp) rfl
  cases hrecv : channel.tryRecv with
  | ok received =>
    obtain ⟨completion, rest⟩ := received
    apply hstored completion rest.dropReceiver
    unfold State.receive
    dsimp only
    rw [hrecv]
    rfl
  | error error =>
    cases error with
    | empty =>
      rw [(Channel.tryRecv_empty_iff.mp hrecv).2] at hsender
      cases hsender
    | disconnected =>
      apply hstored .panicked channel.dropReceiver
      unfold State.receive
      dsimp only
      rw [hrecv]
      rfl

/-- A caller that has waited in vain can wait again and be answered, once the worker has finished;
an owner that was not started is started first. -/
theorem exists_answered {s : State} (hs : Lifecycle s) (hcall : s.call = .idle)
    (timeout : Duration) :
    ∃ before wait t s' completion, system.Run s before t ∧ system.Run t wait s' ∧
      Wait wait (.ok completion) ∧
      (∃ output, wait.head? = some (.waitForCompletion timeout, output)) ∧
      (s.owner.startCalled = true → ∀ l ∈ before, ∃ action, l.1 = .worker action) := by
  cases hs with
  | inert stop channel =>
    -- A start completes the owner where a stop was requested, and spawns the worker otherwise.
    cases stop with
    | true =>
      refine ⟨[(.start none, .started (.ok .stopAlreadyRequested))],
        [(.waitForCompletion timeout, .waited (.ok .stoppedBeforeStart))], _, _,
        .stoppedBeforeStart, ⟨_, rfl, rfl⟩, ⟨_, rfl, rfl⟩, .immediate (.inr ⟨timeout, rfl⟩) rfl,
        ⟨_, rfl⟩, by rintro ⟨⟩⟩
    | false =>
      obtain ⟨channel', panicked, hsender, ls, hrun, -⟩ :=
        exists_exited false .spawned .empty ⟨rfl, rfl⟩
      obtain ⟨wait, s', completion, hwait, hanswer, hfirst⟩ :=
        exists_wait_exited false panicked channel' hsender timeout
      exact ⟨(.start none, .started (.ok .started)) :: ls, wait, _, s', completion,
        ⟨_, rfl, hrun⟩, hwait, hanswer, hfirst, by rintro ⟨⟩⟩
  | working stop worker channel call _ hunsent =>
    cases hcall
    obtain ⟨channel', panicked, hsender, ls, hrun, hls⟩ :=
      exists_exited stop worker channel hunsent
    obtain ⟨wait, s', completion, hwait, hanswer, hfirst⟩ :=
      exists_wait_exited stop panicked channel' hsender timeout
    exact ⟨ls, wait, _, s', completion, hrun, hwait, hanswer, hfirst, fun _ => hls⟩
  | joining => cases hcall
  | settled stop thread channel completion hthread =>
    exact ⟨[], [(.waitForCompletion timeout, .waited (.ok completion))], _, _, completion, rfl,
      ⟨_, rfl, rfl⟩, .immediate (.inr ⟨timeout, rfl⟩) rfl, ⟨_, rfl⟩, by rintro _ _ ⟨⟩⟩

/-! ## The lifecycle of a single use -/

/-- What a caller may rely on after the steps of a run. -/
structure SingleUse (ls : List (Action × Output)) (s : State) : Prop where
  /-- The runner is invoked at most once. -/
  invoked_once : invocations ls ≤ 1
  /-- It is never invoked after a stop or a shutdown that comes before any start. -/
  not_invoked : StoppedFirst ls → invocations ls = 0
  /-- Every start after the first start or shutdown is refused. -/
  started_once : ∀ before l after, ls = before ++ l :: after →
    (∃ e ∈ before, Starts e ∨ ShutsDown e) → Starts l → l.2 = .started (.error .alreadyStarted)
  /-- No `expect` fails. -/
  no_panic : ∀ l ∈ ls, l.2 ≠ .expectFailed
  /-- A wait that expires leaves the owner's fields as they were before it. -/
  expired : ∀ before wait error, ls = before ++ wait → Wait wait (.error error) →
    ∃ t, system.Run .initial before t ∧ system.Run t wait s ∧ s.owner = t.owner
  /-- Between two calls, a wait can still succeed, after steps of the worker alone where the owner
  was started. -/
  answerable : s.call = .idle → ∀ timeout : Duration, ∃ before wait t s' completion,
    system.Run s before t ∧ system.Run t wait s' ∧ Wait wait (.ok completion) ∧
      (∃ output, wait.head? = some (.waitForCompletion timeout, output)) ∧
      (s.owner.startCalled = true → ∀ l ∈ before, ∃ action, l.1 = .worker action)
  /-- A wait or a shutdown that succeeds has joined the worker. -/
  joined : ∀ before l completion, ls = before ++ [l] → l.2 = .waited (.ok completion) →
    Joined completion s
  /-- After it, every answer is the same. -/
  same : ∀ before l after completion, ls = before ++ l :: after → l.2 = .waited (.ok completion) →
    ∀ e ∈ after, ∀ answer, e.2 = .waited answer → answer = .ok completion

/-- Every sequence of calls of an owner, with its worker finishing, failing or panicking at any
moment, is one of a single use. -/
theorem owner_single_use {ls : List (Action × Output)} {s : State}
    (h : system.Run .initial ls s) : SingleUse ls s where
  invoked_once := invocations_le h
  not_invoked := invocations_eq_zero h
  started_once before l after hls hopened hstarts := by
    subst hls
    obtain ⟨t, hbefore, hrest⟩ := TransitionSystem.run_append.mp h
    obtain ⟨u, hstep, -⟩ := TransitionSystem.run_cons.mp hrest
    exact (Effect.of_step (run_lifecycle hbefore) hstep).refused
      (run_startCalled hbefore hopened) hstarts
  no_panic l hl := by
    obtain ⟨before, after, rfl⟩ := List.append_of_mem hl
    obtain ⟨t, hbefore, hrest⟩ := TransitionSystem.run_append.mp h
    obtain ⟨u, hstep, -⟩ := TransitionSystem.run_cons.mp hrest
    exact (Effect.of_step (run_lifecycle hbefore) hstep).no_panic
  expired before wait error hls hwait := by
    subst hls
    obtain ⟨t, hbefore, hrest⟩ := TransitionSystem.run_append.mp h
    exact ⟨t, hbefore, hrest, wait_expires (run_lifecycle hbefore) hrest hwait⟩
  answerable hcall timeout := exists_answered (run_lifecycle h) hcall timeout
  joined before l completion hls hl := by
    subst hls
    obtain ⟨t, hbefore, hstep⟩ := TransitionSystem.run_snoc.mp h
    have ht := run_lifecycle hbefore
    exact (Effect.of_step ht hstep).joined_of_answer ht hl
  same before l after completion hls hl := by
    subst hls
    obtain ⟨t, hbefore, hrest⟩ := TransitionSystem.run_append.mp h
    obtain ⟨u, hstep, hafter⟩ := TransitionSystem.run_cons.mp hrest
    have ht := run_lifecycle hbefore
    have heffect := Effect.of_step ht hstep
    exact (run_joined (heffect.lifecycle ht) (heffect.joined_of_answer ht hl) hafter).2

/-- A worker that panics after it sent its completion: the wait expires once, and then answers with
the panic. -/
def panickingRun : List (Action × Output) :=
  [(.start none, .started (.ok .started)), (.worker .invoke, .invoked),
    (.waitForCompletion Duration.zero, .silent),
    (.receive true, .waited (.error ⟨Duration.zero⟩)),
    (.shutdown Duration.zero, .silent),
    (.worker (.finish (.returned (.error .invalidDuration))), .silent), (.worker .send, .silent),
    (.receive false, .silent), (.worker .panic, .silent), (.join, .waited (.ok .panicked)),
    (.start none, .started (.error .alreadyStarted)),
    (.waitForCompletion Duration.zero, .waited (.ok .panicked))]

/-- This run is one of a single use. -/
theorem owner_single_use_panicking : ∃ s, system.Run .initial panickingRun s ∧
    SingleUse panickingRun s := by
  have hrun : ∃ s, system.Run .initial panickingRun s :=
    ⟨_, _, rfl, _, rfl, _, rfl, _, rfl, _, rfl, _, rfl, _, rfl, _, rfl, _, rfl, _, rfl, _, rfl, _,
      rfl, rfl⟩
  obtain ⟨s, h⟩ := hrun
  exact ⟨s, h, owner_single_use h⟩

end CaptureOwner

end ResonanceSignal
