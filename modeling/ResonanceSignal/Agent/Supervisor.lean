import ResonanceSignal.Agent.ProcessCapture
import ResonanceSignal.Agent.Recovery

/-!
# Capture supervision

`CaptureSupervisor` of `supervisor.rs`. The factory and the owner are on the other side of traits,
so each call of the supervisor takes what they answer as an argument, and an event that the owner
passes to its callback is a step of its own (`observe`). `none` is a panic: an `expect` that does
not hold.

The supervisor classifies the outcome of an attempt from the owner's completion alone
(`retryFailureFor`); of the events it keeps whether the stream started, the last error, and the
reason of the end.
-/

namespace ResonanceSignal

/-! ## Owners -/

/-- The result of an owner whose worker has terminated. -/
inductive CaptureOwnerCompletion
  | stoppedBeforeStart
  | finished (report : CaptureReport)
  | failed (error : CaptureRunError)
  | startFailed (message : String)
  | panicked
deriving DecidableEq, Repr

/-- The outcome of the one start of an owner. -/
inductive CaptureOwnerStart
  | started
  | stopAlreadyRequested
deriving DecidableEq, Repr

/-- Why an owner could not start. The error of the system is its text. -/
inductive CaptureOwnerStartError
  | alreadyStarted
  | spawn (error : String)
deriving DecidableEq, Repr

/-- A bounded wait that expired. -/
structure CaptureOwnerShutdownTimeout where
  /-- The bound. -/
  timeout : Duration
deriving DecidableEq, Repr

/-- A failure before an owner exists. -/
structure CaptureOwnerConstructionError where
  /-- The text. -/
  message : String
deriving DecidableEq, Repr

/-! ## The supervisor's data -/

/-- The lifecycle of a supervisor. -/
inductive CaptureSupervisorState
  | idle
  | running
  | stopping
  | completed
deriving DecidableEq, Repr

/-- The outcome of the one creation of an owner. -/
inductive CaptureSupervisorStart
  | started
  | stoppedBeforeStart
deriving DecidableEq, Repr

/-- Why the supervisor could not start an owner. -/
inductive CaptureSupervisorStartError
  | notIdle (state : CaptureSupervisorState)
  | construction (error : CaptureOwnerConstructionError)
  | owner (error : CaptureOwnerStartError)
deriving DecidableEq, Repr

/-- Why a wait for completion failed. -/
inductive CaptureSupervisorWaitError
  | notStarted
  | timeout (error : CaptureOwnerShutdownTimeout)
deriving DecidableEq, Repr

/-- The outcome of the owner that the supervisor keeps. -/
inductive CaptureSupervisorCompletion
  | stoppedBeforeStart
  | constructionFailed
  | finished («end» : CaptureEnd)
  | failed (kind : ErrorKind) (retryHint : RetryHint)
  | startFailed
  | panicked
deriving DecidableEq, Repr

/-- `CaptureSupervisorCompletion::from` -/
def CaptureOwnerCompletion.summary : CaptureOwnerCompletion → CaptureSupervisorCompletion
  | stoppedBeforeStart => .stoppedBeforeStart
  | finished report => .finished report.end
  | failed error => .failed error.kind error.retryHint
  | startFailed _ => .startFailed
  | panicked => .panicked

/-- What the consumer's callback was given of the end of a stream. -/
structure CaptureTerminalObservation where
  /-- Whether the stream started. -/
  started : Bool
  /-- The last error. -/
  error : Option (ErrorKind × RetryHint)
  /-- Why the stream ended. -/
  endReason : Option StreamEndReason
deriving DecidableEq, Repr

namespace CaptureTerminalObservation

/-- `CaptureTerminalObservation::default` -/
def default : CaptureTerminalObservation := ⟨false, none, none⟩

/-- `terminal_event_delivered` -/
def terminalEventDelivered (self : CaptureTerminalObservation) : Bool := self.endReason.isSome

/-- What the callback keeps of an event, once the consumer has returned. -/
def observe (self : CaptureTerminalObservation) : StreamEvent → CaptureTerminalObservation
  | .started _ => { self with started := true }
  | .error error => { self with error := some (error.kind, error.retryHint) }
  | .ended _ reason => { self with endReason := some reason }
  | .data _ => self

end CaptureTerminalObservation

/-- `RETRY_HISTORY_CAPACITY` -/
def retryHistoryCapacity : ℕ := 16

/-- `RECOVERY_DISABLED_CONFIGURATION_VERSION` -/
def recoveryDisabledConfigurationVersion : RecoveryConfigurationVersion := .first

/-- The lifecycle evidence of an evaluation. -/
structure RecoveryLifecycleSnapshot where
  /-- The attempt. -/
  attemptId : AttemptId
  /-- Whether its stream started. -/
  streamStarted : Bool
  /-- Whether its terminal event was delivered. -/
  terminalEventDelivered : Bool
  /-- Whether its owner completed. -/
  ownerCompleted : Bool
  /-- Whether its resources were released. -/
  resourcesReleased : Bool
  /-- The outcome. -/
  completion : CaptureSupervisorCompletion
deriving DecidableEq, Repr

/-- The input of one evaluation of the policy. -/
structure RecoveryEvaluationSnapshot where
  /-- The configuration. -/
  configuration : RecoveryConfigurationSnapshot
  /-- The retry state. -/
  retryState : RetrySnapshot
  /-- The lifecycle. -/
  lifecycle : RecoveryLifecycleSnapshot
  /-- The cause. -/
  cause : RecoveryCause
  /-- The evidence. -/
  policyEvidence : RecoveryEvidence

/-- `evaluate` -/
def RecoveryEvaluationSnapshot.evaluate (self : RecoveryEvaluationSnapshot)
    (currentConfiguration : RecoveryConfigurationSnapshot) (currentDesiredRunning : Bool)
    (currentIntentGeneration : UInt64) : RecoveryDecision :=
  Recovery.evaluateRecoveryPolicy self.configuration currentConfiguration.identity self.retryState
    ⟨currentDesiredRunning, currentIntentGeneration, self.retryState.intentGeneration.get⟩
    self.cause self.policyEvidence

/-- A result of the policy. -/
structure RecordedRecoveryEvaluation where
  /-- What was evaluated. -/
  snapshot : RecoveryEvaluationSnapshot
  /-- The decision. -/
  decision : RecoveryDecision

/-- A supervisor. The factory is outside of it, and its owner and its callback are only there or
not. -/
structure CaptureSupervisor where
  /-- Whether the callback was not given to an owner yet. -/
  holdsOnEvent : Bool
  /-- What the callback saw. -/
  observation : CaptureTerminalObservation
  /-- Whether there is an owner. -/
  hasOwner : Bool
  /-- The lifecycle. -/
  state : CaptureSupervisorState
  /-- The recovery configuration. -/
  recoveryConfiguration : RecoveryConfigurationSnapshot
  /-- The retry state. -/
  retryState : RetryState retryHistoryCapacity
  /-- Whether the owner's resources were released. -/
  resourcesReleased : Bool
  /-- The outcome. -/
  completion : Option CaptureSupervisorCompletion
  /-- The last evaluation. -/
  recoveryEvaluation : Option RecordedRecoveryEvaluation

/-- The answers of the factory and its owner to a start. -/
structure StartAnswers where
  /-- Of the factory's `create`. -/
  create : Except CaptureOwnerConstructionError Unit
  /-- Of the owner's `start`. -/
  start : Except CaptureOwnerStartError CaptureOwnerStart
  /-- Of the owner's `wait_for_completion`, where the start did not begin a run. -/
  completion : Except CaptureOwnerShutdownTimeout CaptureOwnerCompletion
deriving DecidableEq

/-- `retry_failure_for` -/
def retryFailureFor : CaptureSupervisorCompletion → Option RetryFailureCause
  | .constructionFailed => some .ownerConstructionFailure
  | .startFailed => some .startupFailure
  | .panicked => some .workerPanic
  | .failed kind _ => some <|
    match kind with
    | .sourceUnavailable => .deviceUnavailable .invalidated
    | .streamInterrupted => .interrupted
    | .unsupportedFormat => .unsupportedFormat
    | .resourceExhausted => .resourceExhausted
    | _ => .internalFailure
  | .stoppedBeforeStart => none
  | .finished _ => none

/-! ## The operations -/

namespace CaptureSupervisor

/-- A supervisor before its start. -/
def inert (recoveryConfiguration : RecoveryConfigurationSnapshot)
    (retryState : RetryState retryHistoryCapacity) : CaptureSupervisor where
  holdsOnEvent := true
  observation := .default
  hasOwner := false
  state := .idle
  recoveryConfiguration
  retryState
  resourcesReleased := false
  completion := none
  recoveryEvaluation := none

/-- `with_factory` -/
def withFactory : Option CaptureSupervisor := do
  let recoveryConfiguration ←
    (RecoveryConfigurationInput.recoveryDisabled
      recoveryDisabledConfigurationVersion).validate.toOption
  let retryState ← (RetryState.new retryHistoryCapacity).toOption
  return .inert recoveryConfiguration retryState

/-- `replacement_eligible` -/
def replacementEligible (self : CaptureSupervisor) : Bool :=
  self.retryState.desiredRunning && self.observation.terminalEventDelivered &&
    self.completion.isSome && self.resourcesReleased

/-- The cause that `recovery_snapshot` gives the policy. -/
def recoveryCause (retryState : RetrySnapshot) : RecoveryCause :=
  if !retryState.desiredRunning then .explicitStop
  else
    match retryState.lastFailure with
    | some failure => failure.cause.recoveryCause
    | none => .normalShutdown

/-- `recovery_snapshot` -/
def recoverySnapshot (self : CaptureSupervisor) : Option RecoveryEvaluationSnapshot := do
  let retryState ← self.retryState.snapshot.toOption
  let attempt ← retryState.currentAttempt
  let completion ← self.completion
  let retryHint :=
    match completion with
    | .failed _ retryHint => some retryHint
    | _ => self.observation.error.map Prod.snd
  let lifecycle : RecoveryLifecycleSnapshot :=
    ⟨attempt.id, attempt.streamStarted, attempt.terminalEventDelivered, self.completion.isSome,
      attempt.resourcesReleased, completion⟩
  return {
    configuration := self.recoveryConfiguration
    retryState
    lifecycle
    cause := recoveryCause retryState
    policyEvidence := {
      streamStarted := some lifecycle.streamStarted
      terminalEventDelivered := some lifecycle.terminalEventDelivered
      ownerCompleted := some lifecycle.ownerCompleted
      resourcesReleased := some lifecycle.resourcesReleased
      retryHint
      attemptsRemaining := none
      cooldownComplete := none
      sourceAvailable := none
      sourcePolicy := none
      replacementSourceResolved := none
      supportedFormatAvailable := none
      pressureCleared := none
      changedPrecondition := none } }

/-- `record_recovery_evaluation`. The assertion of a debug build is left out. -/
def recordRecoveryEvaluation (self : CaptureSupervisor) : Option CaptureSupervisor :=
  match self.recoverySnapshot with
  | none => some self
  | some snapshot => do
    let generation ← self.retryState.intentGeneration
    let decision := snapshot.evaluate self.recoveryConfiguration self.retryState.desiredRunning
      generation.get
    return { self with recoveryEvaluation := some ⟨snapshot, decision⟩ }

/-- `record_attempt_completion`, on the retry state and what the callback saw. -/
def recordAttemptCompletion (retryState : RetryState retryHistoryCapacity)
    (observation : CaptureTerminalObservation) (completion : CaptureSupervisorCompletion) :
    Option (RetryState retryHistoryCapacity) := do
  let snapshot ← retryState.snapshot.toOption
  let attempt ← snapshot.currentAttempt
  let retryState ←
    if observation.started && !attempt.streamStarted then
      (retryState.recordStreamStarted attempt.id).toOption
    else some retryState
  let retryState ←
    match retryFailureFor completion with
    | some cause => (retryState.recordFailure attempt.id cause).toOption
    | none => (retryState.recordNormalCompletion attempt.id).toOption
  let retryState ←
    if observation.started && observation.terminalEventDelivered then
      (retryState.recordTerminalEventDelivered attempt.id).toOption
    else some retryState
  (retryState.recordCleanupComplete attempt.id).toOption

/-- `record_owner_completion`, with the owner's answer to the wait. -/
def recordOwnerCompletion (self : CaptureSupervisor)
    (answer : Except CaptureOwnerShutdownTimeout CaptureOwnerCompletion) :
    Option (Except CaptureOwnerShutdownTimeout CaptureSupervisorCompletion × CaptureSupervisor) :=
  match self.completion with
  | some completion => some (.ok completion, self)
  | none => do
    guard self.hasOwner
    match answer with
    | .error error => return (.error error, self)
    | .ok completion =>
      let completion := completion.summary
      let retryState ← recordAttemptCompletion self.retryState self.observation completion
      let self ← recordRecoveryEvaluation { self with
        completion := some completion
        resourcesReleased := true
        state := .completed
        retryState }
      return (.ok completion, self)

/-- `start` -/
def start (self : CaptureSupervisor) (answers : StartAnswers) :
    Option (Except CaptureSupervisorStartError CaptureSupervisorStart × CaptureSupervisor) :=
  if self.state ≠ .idle then some (.error (.notIdle self.state), self)
  else do
    let (generation, retryState) ←
      (self.retryState.explicitStart self.recoveryConfiguration.identity).toOption
    let (attemptId, retryState) ← (retryState.commitInitialAttempt generation).toOption
    guard self.holdsOnEvent
    match answers.create with
    | .error error =>
      let retryState ← (retryState.recordFailure attemptId .ownerConstructionFailure).toOption
      let retryState ← (retryState.recordCleanupComplete attemptId).toOption
      let self ← recordRecoveryEvaluation { self with
        holdsOnEvent := false
        retryState
        resourcesReleased := true
        completion := some .constructionFailed
        state := .completed }
      return (.error (.construction error), self)
    | .ok () =>
      let retryState ← (retryState.recordOwnerCreated attemptId).toOption
      let self := { self with holdsOnEvent := false, retryState, hasOwner := true }
      match answers.start with
      | .ok .started => return (.ok .started, { self with state := .running })
      | .ok .stopAlreadyRequested =>
        let (outcome, self) ← self.recordOwnerCompletion answers.completion
        let _ ← outcome.toOption
        return (.ok .stoppedBeforeStart, self)
      | .error error =>
        let (outcome, self) ← self.recordOwnerCompletion answers.completion
        let _ ← outcome.toOption
        return (.error (.owner error), self)

/-- `wait_for_completion` -/
def waitForCompletion (self : CaptureSupervisor)
    (answer : Except CaptureOwnerShutdownTimeout CaptureOwnerCompletion) :
    Option (Except CaptureSupervisorWaitError CaptureSupervisorCompletion × CaptureSupervisor) :=
  if self.state = .idle then some (.error .notStarted, self)
  else
    (self.recordOwnerCompletion answer).map fun (outcome, self) =>
      (outcome.mapError .timeout, self)

/-- `disable_recovery_intent` -/
def disableRecoveryIntent (self : CaptureSupervisor) : Option CaptureSupervisor :=
  match self.retryState.intentGeneration with
  | none => some self
  | some generation =>
    if self.retryState.desiredRunning then do
      let retryState ← (self.retryState.explicitStop generation).toOption
      return { self with retryState }
    else some self

/-- `stop`, with whether it requests the owner to stop. -/
def stop (self : CaptureSupervisor)
    (answer : Except CaptureOwnerShutdownTimeout CaptureOwnerCompletion) :
    Option (Bool × Except CaptureOwnerShutdownTimeout CaptureSupervisorCompletion ×
      CaptureSupervisor) := do
  let self ← self.disableRecoveryIntent
  match self.state with
  | .idle =>
    return (false, .ok .stoppedBeforeStart, { self with
      resourcesReleased := true
      completion := some .stoppedBeforeStart
      state := .completed })
  | .running | .stopping =>
    guard self.hasOwner
    let outcome ← recordOwnerCompletion { self with state := .stopping } answer
    return (true, outcome)
  | .completed =>
    let self ← self.recordRecoveryEvaluation
    let completion ← self.completion
    return (false, .ok completion, self)

/-- The owner passes an event to its callback. -/
def observe (self : CaptureSupervisor) (event : StreamEvent) : CaptureSupervisor :=
  { self with observation := self.observation.observe event }

/-- What happens to a supervisor: its calls, with what the factory and the owner answer, and the
events of the owner. -/
inductive Call
  | start (answers : StartAnswers)
  | waitForCompletion (answer : Except CaptureOwnerShutdownTimeout CaptureOwnerCompletion)
  | stop (answer : Except CaptureOwnerShutdownTimeout CaptureOwnerCompletion)
  | observe (event : StreamEvent)
deriving DecidableEq

/-- The supervisor after a call. -/
def call (self : CaptureSupervisor) : Call → Option CaptureSupervisor
  | .start answers => (self.start answers).map Prod.snd
  | .waitForCompletion answer => (self.waitForCompletion answer).map Prod.snd
  | .stop answer => (self.stop answer).map fun outcome => outcome.2.2
  | .observe event => some (self.observe event)

/-- The supervisor after a list of calls. -/
def calls (self : CaptureSupervisor) (cs : List Call) : Option CaptureSupervisor :=
  cs.foldlM call self

end CaptureSupervisor

end ResonanceSignal
