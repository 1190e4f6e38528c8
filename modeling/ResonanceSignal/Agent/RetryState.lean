import ResonanceSignal.Agent.RecoveryConfig

/-!
# Supervisor-owned retry state

The state machine of `retry_state.rs`: an intent generation, its attempts, the recovery episode they
belong to, and the cooldown between them. Every operation is a function to the next state or an
error. None of them changes the state before its last check, so an operation that fails leaves the
state as it was (`apply`).

The causes, decisions and reasons of `recovery.rs` that the state and its snapshots name stand
first.
-/

namespace ResonanceSignal

/-- Why a device is unavailable. -/
inductive DeviceUnavailableCause
  | removed
  | invalidated
deriving DecidableEq, Repr

/-- What was reconfigured. -/
inductive SourceReconfigurationCause
  | defaultEndpointChanged
  | formatChanged
deriving DecidableEq, Repr

/-- The classifications of one completed capture attempt. -/
inductive RecoveryCause
  | explicitStop
  | normalShutdown
  | deviceUnavailable (cause : DeviceUnavailableCause)
  | sourceReconfigured (cause : SourceReconfigurationCause)
  | interrupted
  | resourceExhausted
  | unsupportedFormat
  | internalFailure
  | startupFailure
  | workerPanic
deriving DecidableEq, Repr

/-- The explanations of a decision. -/
inductive RecoveryDecisionReason
  | explicitStop
  | staleIntent
  | staleConfiguration
  | cleanupPending
  | terminalBoundaryPending
  | missingEvidence
  | inconsistentEvidence
  | retryVetoed
  | configuredNonRetryable
  | normalShutdown
  | sourceUnavailable
  | sourceAvailable
  | pinnedSource
  | replacementSourcePending
  | replacementSourceReady
  | supportedFormatUnavailable
  | supportedFormatAvailable
  | retryBudgetExhausted
  | cooldownPending
  | retryEligible
  | pressureClearancePending
  | pressureCleared
  | changedPreconditionPending
  | unsupportedFormat
  | internalFailure
  | startupFailure
  | workerPanic
deriving DecidableEq, Repr

/-- What recovery policy evaluation returns. -/
inductive RecoveryDecision
  | remainStopped (reason : RecoveryDecisionReason)
  | wait (reason : RecoveryDecisionReason)
  | permitReplacement (reason : RecoveryDecisionReason)
deriving DecidableEq, Repr

/-! ## The data of the state -/

/-- The number of an explicit start. -/
structure IntentGeneration where
  /-- The number. -/
  get : UInt64
deriving DecidableEq, Repr

/-- The number of changes of the state in its generation. -/
structure StateRevision where
  /-- The number. -/
  get : UInt64
deriving DecidableEq, Repr

/-- The number of an attempt in its generation. -/
structure AttemptOrdinal where
  /-- The number. -/
  get : UInt64
deriving DecidableEq, Repr

/-- The identity of exactly one owner-creation call. -/
structure AttemptId where
  /-- The generation. -/
  intentGeneration : IntentGeneration
  /-- The number in the generation. -/
  ordinal : AttemptOrdinal
deriving DecidableEq, Repr

/-- What an attempt was started by. -/
inductive AttemptKind
  | explicitStart
  | automaticRecovery
deriving DecidableEq, Repr

/-- How far an attempt is. -/
inductive AttemptLifecycle
  | committed
  | ownerCreated
  | running
  | failed
  | completed
  | cleanupComplete
deriving DecidableEq, Repr

/-- The phase of the current intent. -/
inductive RetryPhase
  | idle
  | attempting
  | running
  | failed
  | waiting
  | exhausted
  | stopped
deriving DecidableEq, Repr

/-- The failures that retry state keeps. -/
inductive RetryFailureCause
  | ownerConstructionFailure
  | deviceUnavailable (cause : DeviceUnavailableCause)
  | sourceReconfigured (cause : SourceReconfigurationCause)
  | interrupted
  | resourceExhausted
  | unsupportedFormat
  | internalFailure
  | startupFailure
  | workerPanic
deriving DecidableEq, Repr

/-- `RecoveryCause::from` -/
def RetryFailureCause.recoveryCause : RetryFailureCause → RecoveryCause
  | ownerConstructionFailure => .startupFailure
  | deviceUnavailable cause => .deviceUnavailable cause
  | sourceReconfigured cause => .sourceReconfigured cause
  | interrupted => .interrupted
  | resourceExhausted => .resourceExhausted
  | unsupportedFormat => .unsupportedFormat
  | internalFailure => .internalFailure
  | startupFailure => .startupFailure
  | workerPanic => .workerPanic

/-- One attempt. -/
structure AttemptState where
  /-- Its identity. -/
  id : AttemptId
  /-- What started it. -/
  kind : AttemptKind
  /-- How far it is. -/
  lifecycle : AttemptLifecycle
  /-- Whether its stream started. -/
  streamStarted : Bool
  /-- Whether its terminal event was delivered. -/
  terminalEventDelivered : Bool
  /-- Whether its resources were released. -/
  resourcesReleased : Bool
  /-- Its failure. -/
  failure : Option RetryFailureCause
deriving DecidableEq, Repr

/-- `ready_for_evaluation` -/
def AttemptState.readyForEvaluation (self : AttemptState) : Bool :=
  self.failure.isSome && self.resourcesReleased &&
    (!self.streamStarted || self.terminalEventDelivered)

/-- The number of an episode in its generation. -/
structure RecoveryEpisodeOrdinal where
  /-- The number. -/
  get : UInt64
deriving DecidableEq, Repr

/-- The identity of a recovery episode. -/
structure RecoveryEpisodeId where
  /-- The generation. -/
  intentGeneration : IntentGeneration
  /-- The number in the generation. -/
  ordinal : RecoveryEpisodeOrdinal
deriving DecidableEq, Repr

/-- Why an episode is exhausted. -/
inductive ExhaustionReason
  | automaticRecoveryBudget
  | policyVeto
deriving DecidableEq, Repr

/-- What was known when an episode was exhausted. -/
structure ExhaustionRecord where
  /-- The generation. -/
  intentGeneration : IntentGeneration
  /-- The episode. -/
  recoveryEpisode : RecoveryEpisodeId
  /-- The revision that was evaluated. -/
  evaluatedRevision : StateRevision
  /-- The attempt. -/
  attemptId : AttemptId
  /-- The reason. -/
  reason : ExhaustionReason
  /-- The configuration. -/
  configurationId : RecoveryConfigurationIdentity
deriving DecidableEq, Repr

/-- A recovery episode. -/
structure RecoveryEpisodeState where
  /-- Its identity. -/
  id : RecoveryEpisodeId
  /-- How many automatic attempts it started. -/
  automaticRecoveryAttemptsStarted : UInt64
  /-- Its exhaustion. -/
  exhaustion : Option ExhaustionRecord
deriving DecidableEq, Repr

/-- What a cooldown waits for. -/
structure CooldownEligibilityMarker where
  /-- The number. -/
  get : UInt64
deriving DecidableEq, Repr

/-- The evidence that a cooldown is over. -/
structure CooldownEvidenceId where
  /-- The number. -/
  get : UInt64
deriving DecidableEq, Repr

/-- A required cooldown. -/
structure CooldownRequirement where
  /-- The attempt it follows. -/
  attemptId : AttemptId
  /-- What it waits for. -/
  marker : CooldownEligibilityMarker
deriving DecidableEq, Repr

/-- The state of the cooldown. -/
inductive CooldownState
  | notRequired
  | pending (requirement : CooldownRequirement)
  | satisfied (requirement : CooldownRequirement) (evidence : CooldownEvidenceId)
  | invalidated (requirement : CooldownRequirement)
deriving DecidableEq, Repr

namespace CooldownState

/-- `permits_progression` -/
def permitsProgression : CooldownState → Bool
  | notRequired => true
  | pending _ => false
  | satisfied _ _ => true
  | invalidated _ => false

/-- What an explicit stop leaves of a cooldown. -/
def invalidate : CooldownState → CooldownState
  | notRequired => notRequired
  | pending requirement => invalidated requirement
  | satisfied requirement _ => invalidated requirement
  | invalidated requirement => invalidated requirement

end CooldownState

/-- One recorded failure. -/
structure FailureRecord where
  /-- The attempt. -/
  attemptId : AttemptId
  /-- The episode. -/
  recoveryEpisode : RecoveryEpisodeId
  /-- The cause. -/
  cause : RetryFailureCause
  /-- Whether the attempt's stream had started. -/
  streamStarted : Bool
deriving DecidableEq, Repr

/-- Why a transition is refused. -/
inductive RetryTransitionError
  | historyCapacityZero
  | noActiveIntent
  | intentAlreadyRunning
  | staleIntent (current supplied : IntentGeneration)
  | staleSnapshot
  | decisionDoesNotPermitRecovery
  | invalidPhase (phase : RetryPhase)
  | noCurrentAttempt
  | attemptMismatch (current supplied : AttemptId)
  | invalidAttemptLifecycle (lifecycle : AttemptLifecycle)
  | failureAlreadyRecorded
  | terminalEventNotApplicable
  | cleanupPending
  | terminalEvidencePending
  | noRecoveryEpisode
  | episodeExhausted
  | cooldownPending
  | cooldownEvidenceMismatch
  | invalidEpisodeResetEvidence
  | counterExhausted
deriving DecidableEq, Repr

/-- How many failures of each class were recorded. -/
structure FailureTotals where
  /-- All of them. -/
  total : UInt64
  /-- Failures to construct an owner. -/
  ownerConstructionFailure : UInt64
  /-- Unavailable devices. -/
  deviceUnavailable : UInt64
  /-- Reconfigured sources. -/
  sourceReconfigured : UInt64
  /-- Interruptions. -/
  interrupted : UInt64
  /-- Exhausted resources. -/
  resourceExhausted : UInt64
  /-- Unsupported formats. -/
  unsupportedFormat : UInt64
  /-- Internal failures. -/
  internalFailure : UInt64
  /-- Failures to start. -/
  startupFailure : UInt64
  /-- Panics of a worker. -/
  workerPanic : UInt64
deriving DecidableEq, Repr

/-- A counter with one more. -/
def increment (counter : UInt64) : Except RetryTransitionError UInt64 :=
  okOr .counterExhausted (Checked.add counter 1)

namespace FailureTotals

/-- `FailureTotals::default` -/
def zero : FailureTotals := ⟨0, 0, 0, 0, 0, 0, 0, 0, 0, 0⟩

/-- `checked_with_record` -/
def checkedWithRecord (self : FailureTotals) (cause : RetryFailureCause) :
    Except RetryTransitionError FailureTotals := do
  let total ← increment self.total
  let updated := { self with total }
  match cause with
  | .ownerConstructionFailure =>
    return { updated with ownerConstructionFailure := ← increment self.ownerConstructionFailure }
  | .deviceUnavailable _ =>
    return { updated with deviceUnavailable := ← increment self.deviceUnavailable }
  | .sourceReconfigured _ =>
    return { updated with sourceReconfigured := ← increment self.sourceReconfigured }
  | .interrupted => return { updated with interrupted := ← increment self.interrupted }
  | .resourceExhausted =>
    return { updated with resourceExhausted := ← increment self.resourceExhausted }
  | .unsupportedFormat =>
    return { updated with unsupportedFormat := ← increment self.unsupportedFormat }
  | .internalFailure => return { updated with internalFailure := ← increment self.internalFailure }
  | .startupFailure => return { updated with startupFailure := ← increment self.startupFailure }
  | .workerPanic => return { updated with workerPanic := ← increment self.workerPanic }

end FailureTotals

/-- The evidence that an episode is over, validated elsewhere. -/
structure ResetEvidenceId where
  /-- The number. -/
  get : UInt64
deriving DecidableEq, Repr

/-- Why an episode is over. -/
inductive RecoveryEpisodeResetEvidence
  | stableRun (evidence : ResetEvidenceId)
  | changedPrecondition (evidence : ResetEvidenceId)
deriving DecidableEq, Repr

/-! ## Snapshots -/

/-- The facts that a policy evaluates. -/
structure RetrySnapshot where
  /-- Whether the consumer wants capture. -/
  desiredRunning : Bool
  /-- The generation. -/
  intentGeneration : IntentGeneration
  /-- The revision. -/
  stateRevision : StateRevision
  /-- The configuration. -/
  configurationId : RecoveryConfigurationIdentity
  /-- The phase. -/
  phase : RetryPhase
  /-- How many attempts were started. -/
  attemptsStarted : UInt64
  /-- The current attempt. -/
  currentAttempt : Option AttemptState
  /-- The current episode. -/
  recoveryEpisode : Option RecoveryEpisodeState
  /-- The last failure. -/
  lastFailure : Option FailureRecord
  /-- The recent failures, oldest first. -/
  recentFailures : List FailureRecord
  /-- The failures by class. -/
  failureTotals : FailureTotals
  /-- How many attempts failed in a row. -/
  consecutiveFailedAttempts : UInt64
  /-- The cooldown. -/
  cooldown : CooldownState
deriving DecidableEq, Repr

/-- One permission, bound to one evaluated revision. -/
structure RecoveryAuthorization where
  /-- The generation. -/
  intentGeneration : IntentGeneration
  /-- The revision. -/
  stateRevision : StateRevision
  /-- The configuration. -/
  configurationId : RecoveryConfigurationIdentity
  /-- The episode. -/
  recoveryEpisode : Option RecoveryEpisodeId
  /-- The attempt to replace. -/
  priorAttemptId : Option AttemptId
  /-- The reason of the permission. -/
  reason : RecoveryDecisionReason
deriving DecidableEq, Repr

/-- `authorize` -/
def RetrySnapshot.authorize (self : RetrySnapshot) :
    RecoveryDecision → Except RetryTransitionError RecoveryAuthorization
  | .permitReplacement reason =>
    .ok ⟨self.intentGeneration, self.stateRevision, self.configurationId,
      self.recoveryEpisode.map RecoveryEpisodeState.id, self.currentAttempt.map AttemptState.id,
      reason⟩
  | .wait _ => .error .decisionDoesNotPermitRecovery
  | .remainStopped _ => .error .decisionDoesNotPermitRecovery

/-! ## The state and its operations -/

/-- The retry state of one supervisor, with a bounded history. -/
structure RetryState (historyCapacity : ℕ) where
  /-- The last generation that was started. -/
  lastIntentGeneration : UInt64
  /-- The current generation. -/
  intentGeneration : Option IntentGeneration
  /-- The revision. -/
  stateRevision : StateRevision
  /-- The configuration of the generation. -/
  configurationId : Option RecoveryConfigurationIdentity
  /-- Whether the consumer wants capture. -/
  desiredRunning : Bool
  /-- The phase. -/
  phase : RetryPhase
  /-- How many attempts were started. -/
  attemptsStarted : UInt64
  /-- The current attempt. -/
  currentAttempt : Option AttemptState
  /-- The current episode. -/
  recoveryEpisode : Option RecoveryEpisodeState
  /-- The last failure. -/
  lastFailure : Option FailureRecord
  /-- The recent failures, oldest first. -/
  recentFailures : List FailureRecord
  /-- The failures by class. -/
  failureTotals : FailureTotals
  /-- How many attempts failed in a row. -/
  consecutiveFailedAttempts : UInt64
  /-- The cooldown. -/
  cooldown : CooldownState
deriving DecidableEq, Repr

namespace RetryState

variable {historyCapacity : ℕ}

/-- `RetryState::new` -/
def new (historyCapacity : ℕ) : Except RetryTransitionError (RetryState historyCapacity) := do
  failIf (historyCapacity = 0) .historyCapacityZero
  return {
    lastIntentGeneration := 0
    intentGeneration := none
    stateRevision := ⟨0⟩
    configurationId := none
    desiredRunning := false
    phase := .idle
    attemptsStarted := 0
    currentAttempt := none
    recoveryEpisode := none
    lastFailure := none
    recentFailures := []
    failureTotals := .zero
    consecutiveFailedAttempts := 0
    cooldown := .notRequired }

/-- `next_revision` -/
def nextRevision (self : RetryState historyCapacity) : Except RetryTransitionError StateRevision :=
  (increment self.stateRevision.get).map StateRevision.mk

/-- `require_generation` -/
def requireGeneration (self : RetryState historyCapacity) (supplied : IntentGeneration) :
    Except RetryTransitionError Unit := do
  let current ← okOr .noActiveIntent self.intentGeneration
  failIf (current ≠ supplied) (.staleIntent current supplied)

/-- `require_current_snapshot` -/
def requireCurrentSnapshot (self : RetryState historyCapacity) (evaluated : RetrySnapshot) :
    Except RetryTransitionError Unit := do
  let current ← okOr .noActiveIntent self.intentGeneration
  failIf (evaluated.intentGeneration ≠ current ∨
      evaluated.stateRevision ≠ self.stateRevision ∨
      some evaluated.configurationId ≠ self.configurationId ∨
      evaluated.recoveryEpisode.map RecoveryEpisodeState.id
        ≠ self.recoveryEpisode.map RecoveryEpisodeState.id ∨
      evaluated.currentAttempt.map AttemptState.id ≠ self.currentAttempt.map AttemptState.id)
    .staleSnapshot

/-- `require_current_authorization` -/
def requireCurrentAuthorization (self : RetryState historyCapacity)
    (authorization : RecoveryAuthorization) : Except RetryTransitionError Unit := do
  let current ← okOr .noActiveIntent self.intentGeneration
  failIf (authorization.intentGeneration ≠ current ∨
      authorization.stateRevision ≠ self.stateRevision ∨
      some authorization.configurationId ≠ self.configurationId ∨
      authorization.recoveryEpisode ≠ self.recoveryEpisode.map RecoveryEpisodeState.id ∨
      authorization.priorAttemptId ≠ self.currentAttempt.map AttemptState.id)
    .staleSnapshot

/-- `require_attempt`, and `require_attempt_mut` -/
def requireAttempt (self : RetryState historyCapacity) (supplied : AttemptId) :
    Except RetryTransitionError AttemptState := do
  let current ← okOr .noCurrentAttempt self.currentAttempt
  failIf (current.id ≠ supplied) (.attemptMismatch current.id supplied)
  return current

/-- `refresh_post_failure_phase` -/
def refreshPostFailurePhase (self : RetryState historyCapacity) : RetryState historyCapacity :=
  if !self.desiredRunning || self.phase = .exhausted then self
  else
    match self.currentAttempt with
    | some attempt =>
      if attempt.readyForEvaluation then
        { self with
          phase := .waiting
          currentAttempt := some { attempt with lifecycle := .cleanupComplete } }
      else self
    | none => self

/-- `explicit_start` -/
def explicitStart (self : RetryState historyCapacity)
    (configurationId : RecoveryConfigurationIdentity) :
    Except RetryTransitionError (IntentGeneration × RetryState historyCapacity) := do
  -- A stopped intent may still have an attempt that holds resources.
  failIf self.desiredRunning .intentAlreadyRunning
  failIf (self.currentAttempt.any fun attempt => !attempt.resourcesReleased) .cleanupPending
  let lastIntentGeneration ← increment self.lastIntentGeneration
  return (⟨lastIntentGeneration⟩, {
    lastIntentGeneration
    intentGeneration := some ⟨lastIntentGeneration⟩
    stateRevision := ⟨1⟩
    configurationId := some configurationId
    desiredRunning := true
    phase := .idle
    attemptsStarted := 0
    currentAttempt := none
    recoveryEpisode := none
    lastFailure := none
    recentFailures := []
    failureTotals := .zero
    consecutiveFailedAttempts := 0
    cooldown := .notRequired })

/-- `explicit_stop` -/
def explicitStop (self : RetryState historyCapacity) (generation : IntentGeneration) :
    Except RetryTransitionError (RetryState historyCapacity) := do
  self.requireGeneration generation
  let nextRevision ← self.nextRevision
  return { self with
    desiredRunning := false
    phase := .stopped
    cooldown := self.cooldown.invalidate
    stateRevision := nextRevision }

/-- The counter of the episode after an attempt: one more for an automatic one. -/
def episodeAfter (self : RetryState historyCapacity) :
    AttemptKind → Except RetryTransitionError (Option RecoveryEpisodeState)
  | .explicitStart => .ok self.recoveryEpisode
  | .automaticRecovery => do
    let episode ← okOr .noRecoveryEpisode self.recoveryEpisode
    let started ← increment episode.automaticRecoveryAttemptsStarted
    return some { episode with automaticRecoveryAttemptsStarted := started }

/-- `commit_attempt` -/
def commitAttempt (self : RetryState historyCapacity) (kind : AttemptKind) :
    Except RetryTransitionError (AttemptId × RetryState historyCapacity) := do
  let generation ← okOr .noActiveIntent self.intentGeneration
  let attemptsStarted ← increment self.attemptsStarted
  let id : AttemptId := ⟨generation, ⟨attemptsStarted⟩⟩
  -- Every counter is incremented before the first change, so nothing is left half done.
  let recoveryEpisode ← self.episodeAfter kind
  let nextRevision ← self.nextRevision
  return (id, { self with
    recoveryEpisode
    attemptsStarted
    currentAttempt := some ⟨id, kind, .committed, false, false, false, none⟩
    phase := .attempting
    cooldown := .notRequired
    stateRevision := nextRevision })

/-- `commit_initial_attempt` -/
def commitInitialAttempt (self : RetryState historyCapacity) (generation : IntentGeneration) :
    Except RetryTransitionError (AttemptId × RetryState historyCapacity) := do
  self.requireGeneration generation
  failIf (!self.desiredRunning || self.phase ≠ .idle) (.invalidPhase self.phase)
  self.commitAttempt .explicitStart

/-- `commit_recovery_attempt` -/
def commitRecoveryAttempt (self : RetryState historyCapacity)
    (authorization : RecoveryAuthorization) :
    Except RetryTransitionError (AttemptId × RetryState historyCapacity) := do
  self.requireCurrentAuthorization authorization
  failIf (self.recoveryEpisode.any fun episode => episode.exhaustion.isSome) .episodeExhausted
  let attempt ← okOr .noCurrentAttempt self.currentAttempt
  failIf (!attempt.resourcesReleased) .cleanupPending
  failIf (attempt.streamStarted && !attempt.terminalEventDelivered) .terminalEvidencePending
  failIf (!self.desiredRunning || self.phase ≠ .waiting) (.invalidPhase self.phase)
  -- The source checks the exhaustion twice.
  let episode ← okOr .noRecoveryEpisode self.recoveryEpisode
  failIf episode.exhaustion.isSome .episodeExhausted
  failIf (!self.cooldown.permitsProgression) .cooldownPending
  self.commitAttempt .automaticRecovery

/-- `record_owner_created` -/
def recordOwnerCreated (self : RetryState historyCapacity) (attemptId : AttemptId) :
    Except RetryTransitionError (RetryState historyCapacity) := do
  let nextRevision ← self.nextRevision
  let attempt ← self.requireAttempt attemptId
  failIf (attempt.lifecycle ≠ .committed) (.invalidAttemptLifecycle attempt.lifecycle)
  return { self with
    currentAttempt := some { attempt with lifecycle := .ownerCreated }
    stateRevision := nextRevision }

/-- `record_stream_started` -/
def recordStreamStarted (self : RetryState historyCapacity) (attemptId : AttemptId) :
    Except RetryTransitionError (RetryState historyCapacity) := do
  let nextRevision ← self.nextRevision
  let attempt ← self.requireAttempt attemptId
  failIf (attempt.lifecycle ≠ .ownerCreated) (.invalidAttemptLifecycle attempt.lifecycle)
  return { self with
    currentAttempt := some { attempt with lifecycle := .running, streamStarted := true }
    phase := if self.desiredRunning then .running else self.phase
    stateRevision := nextRevision }

/-- `record_normal_completion` -/
def recordNormalCompletion (self : RetryState historyCapacity) (attemptId : AttemptId) :
    Except RetryTransitionError (RetryState historyCapacity) := do
  let nextRevision ← self.nextRevision
  let attempt ← self.requireAttempt attemptId
  failIf (attempt.failure.isSome ∨
      ¬(attempt.lifecycle = .ownerCreated ∨ attempt.lifecycle = .running))
    (.invalidAttemptLifecycle attempt.lifecycle)
  return { self with
    currentAttempt := some { attempt with lifecycle := .completed }
    stateRevision := nextRevision }

/-- The episode that a failure belongs to: the current one, or the generation's first. -/
def failureEpisode (self : RetryState historyCapacity) :
    Except RetryTransitionError RecoveryEpisodeState :=
  match self.recoveryEpisode with
  | some episode => .ok episode
  | none => do
    let generation ← okOr .noActiveIntent self.intentGeneration
    return ⟨⟨generation, ⟨1⟩⟩, 0, none⟩

/-- The bounded history with one more record. -/
def pushFailure (self : RetryState historyCapacity) (record : FailureRecord) :
    List FailureRecord :=
  if self.recentFailures.length = historyCapacity then self.recentFailures.tail ++ [record]
  else self.recentFailures ++ [record]

/-- `record_failure`. The source looks the attempt up again after its first changes; it is still
there, so nothing fails between two changes. -/
def recordFailure (self : RetryState historyCapacity) (attemptId : AttemptId)
    (cause : RetryFailureCause) : Except RetryTransitionError (RetryState historyCapacity) := do
  let attempt ← self.requireAttempt attemptId
  failIf attempt.failure.isSome .failureAlreadyRecorded
  failIf (¬(attempt.lifecycle = .committed ∨ attempt.lifecycle = .ownerCreated ∨
      attempt.lifecycle = .running)) (.invalidAttemptLifecycle attempt.lifecycle)
  -- The first failure of a generation opens its first episode.
  let episode ← self.failureEpisode
  let record : FailureRecord := ⟨attemptId, episode.id, cause, attempt.streamStarted⟩
  let failureTotals ← self.failureTotals.checkedWithRecord cause
  let consecutiveFailedAttempts ← increment self.consecutiveFailedAttempts
  let nextRevision ← self.nextRevision
  let failed := { attempt with failure := some cause, lifecycle := .failed }
  -- After a stop the failure is recorded too, and the phase stays.
  return refreshPostFailurePhase { self with
    recoveryEpisode := some episode
    failureTotals
    consecutiveFailedAttempts
    recentFailures := self.pushFailure record
    lastFailure := some record
    currentAttempt := some failed
    phase := if self.desiredRunning then .failed else self.phase
    stateRevision := nextRevision }

/-- `record_terminal_event_delivered` -/
def recordTerminalEventDelivered (self : RetryState historyCapacity) (attemptId : AttemptId) :
    Except RetryTransitionError (RetryState historyCapacity) := do
  let nextRevision ← self.nextRevision
  let attempt ← self.requireAttempt attemptId
  failIf (!attempt.streamStarted ∨ ¬(attempt.lifecycle = .running ∨ attempt.lifecycle = .failed ∨
      attempt.lifecycle = .completed)) .terminalEventNotApplicable
  return refreshPostFailurePhase { self with
    currentAttempt := some { attempt with terminalEventDelivered := true }
    stateRevision := nextRevision }

/-- What the release of its resources makes of an attempt. -/
def releasedAttempt (attempt : AttemptState) (desiredRunning : Bool) :
    AttemptState :=
  { attempt with
    resourcesReleased := true
    lifecycle :=
      if attempt.lifecycle = .completed ∨ (attempt.failure.isSome ∧
          (!attempt.streamStarted ∨ attempt.terminalEventDelivered)) then .cleanupComplete
      -- A stopped attempt has nothing to wait for.
      else if !desiredRunning then .cleanupComplete
      else attempt.lifecycle }

/-- `record_cleanup_complete` -/
def recordCleanupComplete (self : RetryState historyCapacity) (attemptId : AttemptId) :
    Except RetryTransitionError (RetryState historyCapacity) := do
  let nextRevision ← self.nextRevision
  let attempt ← self.requireAttempt attemptId
  return refreshPostFailurePhase { self with
    currentAttempt := some (releasedAttempt attempt self.desiredRunning)
    stateRevision := nextRevision }

/-- `require_cooldown` -/
def requireCooldown (self : RetryState historyCapacity) (evaluated : RetrySnapshot)
    (marker : CooldownEligibilityMarker) :
    Except RetryTransitionError (RetryState historyCapacity) := do
  self.requireCurrentSnapshot evaluated
  failIf (self.phase ≠ .waiting) (.invalidPhase self.phase)
  let nextRevision ← self.nextRevision
  let attempt ← okOr .noCurrentAttempt self.currentAttempt
  return { self with
    cooldown := .pending ⟨attempt.id, marker⟩
    stateRevision := nextRevision }

/-- `satisfy_cooldown` -/
def satisfyCooldown (self : RetryState historyCapacity) (generation : IntentGeneration)
    (marker : CooldownEligibilityMarker) (evidence : CooldownEvidenceId) :
    Except RetryTransitionError (RetryState historyCapacity) := do
  self.requireGeneration generation
  match self.cooldown with
  | .pending requirement => do
    failIf (requirement.marker ≠ marker) .cooldownEvidenceMismatch
    let nextRevision ← self.nextRevision
    return { self with
      cooldown := .satisfied requirement evidence
      stateRevision := nextRevision }
  | _ => .error .cooldownEvidenceMismatch

/-- `mark_exhausted` -/
def markExhausted (self : RetryState historyCapacity) (evaluated : RetrySnapshot)
    (reason : ExhaustionReason) : Except RetryTransitionError (RetryState historyCapacity) := do
  self.requireCurrentSnapshot evaluated
  failIf (self.recoveryEpisode.any fun episode => episode.exhaustion.isSome) .episodeExhausted
  failIf (self.phase ≠ .waiting) (.invalidPhase self.phase)
  let nextRevision ← self.nextRevision
  let attempt ← okOr .noCurrentAttempt self.currentAttempt
  let configurationId ← okOr .noActiveIntent self.configurationId
  let episode ← okOr .noRecoveryEpisode self.recoveryEpisode
  return { self with
    recoveryEpisode := some { episode with
      exhaustion := some ⟨evaluated.intentGeneration, episode.id, evaluated.stateRevision,
        attempt.id, reason, configurationId⟩ }
    phase := .exhausted
    stateRevision := nextRevision }

/-- Whether a phase accepts the evidence that an episode is over. -/
def acceptsReset : RetryPhase → RecoveryEpisodeResetEvidence → Bool
  | .running, .stableRun _ => true
  | .waiting, .changedPrecondition _ => true
  | .exhausted, .changedPrecondition _ => true
  | _, _ => false

/-- `advance_recovery_episode` -/
def advanceRecoveryEpisode (self : RetryState historyCapacity) (generation : IntentGeneration)
    (evidence : RecoveryEpisodeResetEvidence) :
    Except RetryTransitionError (RecoveryEpisodeId × RetryState historyCapacity) := do
  self.requireGeneration generation
  failIf (!acceptsReset self.phase evidence) .invalidEpisodeResetEvidence
  failIf (self.currentAttempt.any fun attempt =>
    attempt.failure.isSome && !attempt.readyForEvaluation) .cleanupPending
  let previous ← okOr .noRecoveryEpisode self.recoveryEpisode
  let ordinal ← increment previous.id.ordinal.get
  let nextRevision ← self.nextRevision
  let id : RecoveryEpisodeId := ⟨generation, ⟨ordinal⟩⟩
  -- The history and the totals of the generation stay.
  return (id, { self with
    recoveryEpisode := some ⟨id, 0, none⟩
    consecutiveFailedAttempts := 0
    cooldown := .notRequired
    phase := if self.phase = .exhausted then .waiting else self.phase
    stateRevision := nextRevision })

/-- `snapshot` -/
def snapshot (self : RetryState historyCapacity) : Except RetryTransitionError RetrySnapshot := do
  let intentGeneration ← okOr .noActiveIntent self.intentGeneration
  let configurationId ← okOr .noActiveIntent self.configurationId
  return {
    desiredRunning := self.desiredRunning
    intentGeneration
    stateRevision := self.stateRevision
    configurationId
    phase := self.phase
    attemptsStarted := self.attemptsStarted
    currentAttempt := self.currentAttempt
    recoveryEpisode := self.recoveryEpisode
    lastFailure := self.lastFailure
    recentFailures := self.recentFailures
    failureTotals := self.failureTotals
    consecutiveFailedAttempts := self.consecutiveFailedAttempts
    cooldown := self.cooldown }

/-- `is_current_snapshot` -/
def isCurrentSnapshot (self : RetryState historyCapacity) (evaluated : RetrySnapshot) : Bool :=
  (self.requireCurrentSnapshot evaluated).isOk

end RetryState

end ResonanceSignal
