import ResonanceSignal.Agent.RetryState
import ResonanceSignal.Api.Contract

/-!
# Recovery policy evaluation

The policy of `recovery.rs`: a pure function of a validated configuration, a snapshot of the retry
state, the caller's context, and the evidence it has. Of a snapshot with a recorded failure the
policy permits a replacement only where the configuration is the snapshot's, the episode's counter
is below the configured maximum, and the cooldown is satisfied, whatever the caller claims
(`permits_of_failure`).
-/

namespace ResonanceSignal

/-- The intent against which a decision is evaluated. -/
structure RecoveryContext where
  /-- Whether the consumer wants capture. -/
  desiredRunning : Bool
  /-- The current generation. -/
  currentIntentGeneration : UInt64
  /-- The generation that is evaluated. -/
  evaluatedIntentGeneration : UInt64
deriving DecidableEq, Repr

/-- Which source a subscription follows. -/
inductive RecoverySourcePolicy
  | pinned
  | followDefault
deriving DecidableEq, Repr

/-- What the caller knows of a completed attempt. -/
structure RecoveryEvidence where
  /-- Whether its stream started. -/
  streamStarted : Option Bool
  /-- Whether its terminal event was delivered. -/
  terminalEventDelivered : Option Bool
  /-- Whether its owner completed. -/
  ownerCompleted : Option Bool
  /-- Whether its resources were released. -/
  resourcesReleased : Option Bool
  /-- The recovery guidance of its error. -/
  retryHint : Option RetryHint
  /-- Whether attempts remain. -/
  attemptsRemaining : Option Bool
  /-- Whether the cooldown is over. -/
  cooldownComplete : Option Bool
  /-- Whether the source is available. -/
  sourceAvailable : Option Bool
  /-- Which source is followed. -/
  sourcePolicy : Option RecoverySourcePolicy
  /-- Whether a replacement source is known. -/
  replacementSourceResolved : Option Bool
  /-- Whether a supported format is available. -/
  supportedFormatAvailable : Option Bool
  /-- Whether the resource pressure is over. -/
  pressureCleared : Option Bool
  /-- Whether a precondition changed. -/
  changedPrecondition : Option Bool
deriving DecidableEq, Repr

namespace Recovery

/-- `missing_evidence` -/
def missingEvidence : RecoveryDecision := .remainStopped .missingEvidence

/-- `retry_veto` -/
def retryVeto (retryHint : Option RetryHint) : Option RecoveryDecision :=
  if retryHint = some .doNotRetry then some (.remainStopped .retryVetoed) else none

/-- `failure_class` -/
def failureClass : RetryFailureCause → RecoveryFailureClass
  | .ownerConstructionFailure => .ownerConstructionFailure
  | .deviceUnavailable _ => .deviceUnavailable
  | .sourceReconfigured _ => .sourceReconfigured
  | .interrupted => .interrupted
  | .resourceExhausted => .resourceExhausted
  | .unsupportedFormat => .unsupportedFormat
  | .internalFailure => .internalFailure
  | .startupFailure => .startupFailure
  | .workerPanic => .workerPanic

/-- `cause_matches_failure` -/
def causeMatchesFailure : RecoveryCause → RetryFailureCause → Bool
  | .startupFailure, .ownerConstructionFailure => true
  | .startupFailure, .startupFailure => true
  | .interrupted, .interrupted => true
  | .resourceExhausted, .resourceExhausted => true
  | .unsupportedFormat, .unsupportedFormat => true
  | .internalFailure, .internalFailure => true
  | .workerPanic, .workerPanic => true
  | .deviceUnavailable expected, .deviceUnavailable actual => expected = actual
  | .sourceReconfigured expected, .sourceReconfigured actual => expected = actual
  | _, _ => false

/-- `evaluate_common_preconditions` -/
def evaluateCommonPreconditions (context : RecoveryContext) (cause : RecoveryCause)
    (evidence : RecoveryEvidence) : Option RecoveryDecision :=
  if !context.desiredRunning || cause = .explicitStop then some (.remainStopped .explicitStop)
  else if context.evaluatedIntentGeneration ≠ context.currentIntentGeneration then
    some (.remainStopped .staleIntent)
  else
    match evidence.streamStarted, evidence.ownerCompleted, evidence.resourcesReleased with
    | some streamStarted, some ownerCompleted, some resourcesReleased =>
      if !ownerCompleted || !resourcesReleased then some (.wait .cleanupPending)
      else if streamStarted then
        match evidence.terminalEventDelivered with
        | none => some missingEvidence
        | some terminalEventDelivered =>
          if !terminalEventDelivered then some (.wait .terminalBoundaryPending) else none
      else if evidence.terminalEventDelivered = some true then
        some (.remainStopped .inconsistentEvidence)
      else none
    | _, _, _ => some missingEvidence

/-- `evaluate_additional_evidence` -/
def evaluateAdditionalEvidence (requirement : AdditionalEvidenceRequirement)
    (evidence : RecoveryEvidence) : Option RecoveryDecision :=
  let (value, pendingReason) :=
    match requirement with
    | .sourceAvailable => (evidence.sourceAvailable, RecoveryDecisionReason.sourceUnavailable)
    | .supportedFormatAvailable =>
      (evidence.supportedFormatAvailable, .supportedFormatUnavailable)
    | .resourcePressureCleared => (evidence.pressureCleared, .pressureClearancePending)
    | .changedPrecondition => (evidence.changedPrecondition, .changedPreconditionPending)
  match value with
  | some true => none
  | some false => some (.wait pendingReason)
  | none => some missingEvidence

/-- `evaluate_device_unavailable` -/
def evaluateDeviceUnavailable (evidence : RecoveryEvidence) : RecoveryDecision :=
  match retryVeto evidence.retryHint with
  | some decision => decision
  | none =>
    if evidence.retryHint ≠ some .waitForSource then
      match evidence.retryHint with
      | none => missingEvidence
      | some _ => .remainStopped .inconsistentEvidence
    else if evidence.sourcePolicy.isNone || evidence.sourceAvailable.isNone ||
        evidence.attemptsRemaining.isNone then missingEvidence
    else if evidence.attemptsRemaining = some false then .remainStopped .retryBudgetExhausted
    else
      match evidence.sourceAvailable with
      | some true => .permitReplacement .sourceAvailable
      | some false => .wait .sourceUnavailable
      | none => missingEvidence

/-- `evaluate_default_endpoint_change` -/
def evaluateDefaultEndpointChange (evidence : RecoveryEvidence) : RecoveryDecision :=
  match retryVeto evidence.retryHint with
  | some decision => decision
  | none =>
    if evidence.retryHint.isNone || evidence.sourcePolicy.isNone ||
        evidence.replacementSourceResolved.isNone || evidence.attemptsRemaining.isNone then
      missingEvidence
    else if evidence.sourcePolicy = some .pinned then .remainStopped .pinnedSource
    else if evidence.attemptsRemaining = some false then .remainStopped .retryBudgetExhausted
    else
      match evidence.replacementSourceResolved with
      | some true => .permitReplacement .replacementSourceReady
      | some false => .wait .replacementSourcePending
      | none => missingEvidence

/-- `evaluate_format_change` -/
def evaluateFormatChange (evidence : RecoveryEvidence) : RecoveryDecision :=
  match retryVeto evidence.retryHint with
  | some decision => decision
  | none =>
    if evidence.retryHint.isNone || evidence.supportedFormatAvailable.isNone ||
        evidence.attemptsRemaining.isNone then missingEvidence
    else if evidence.attemptsRemaining = some false then .remainStopped .retryBudgetExhausted
    else
      match evidence.supportedFormatAvailable with
      | some true => .permitReplacement .supportedFormatAvailable
      | some false => .wait .supportedFormatUnavailable
      | none => missingEvidence

/-- `evaluate_interruption` -/
def evaluateInterruption (evidence : RecoveryEvidence) : RecoveryDecision :=
  match retryVeto evidence.retryHint with
  | some decision => decision
  | none =>
    match evidence.attemptsRemaining with
    | none => missingEvidence
    | some false => .remainStopped .retryBudgetExhausted
    | some true =>
      match evidence.retryHint with
      | some .retryNow => .permitReplacement .retryEligible
      | some .retryLater =>
        match evidence.cooldownComplete with
        | some true => .permitReplacement .retryEligible
        | some false => .wait .cooldownPending
        | none => missingEvidence
      | some _ => .remainStopped .inconsistentEvidence
      | none => missingEvidence

/-- `evaluate_resource_exhaustion` -/
def evaluateResourceExhaustion (evidence : RecoveryEvidence) : RecoveryDecision :=
  match retryVeto evidence.retryHint with
  | some decision => decision
  | none =>
    if evidence.retryHint.isNone || evidence.attemptsRemaining.isNone ||
        evidence.cooldownComplete.isNone || evidence.pressureCleared.isNone then missingEvidence
    else if evidence.retryHint ≠ some .retryLater then .remainStopped .inconsistentEvidence
    else if evidence.attemptsRemaining = some false then .remainStopped .retryBudgetExhausted
    else if evidence.cooldownComplete = some false || evidence.pressureCleared = some false then
      .wait .pressureClearancePending
    else .permitReplacement .pressureCleared

/-- `evaluate_stopped_cause` -/
def evaluateStoppedCause (retryHint : Option RetryHint) (reason : RecoveryDecisionReason) :
    RecoveryDecision :=
  if retryHint.isNone then missingEvidence
  else (retryVeto retryHint).getD (.remainStopped reason)

/-- `evaluate_recovery` -/
def evaluateRecovery (context : RecoveryContext) (cause : RecoveryCause)
    (evidence : RecoveryEvidence) : RecoveryDecision :=
  match evaluateCommonPreconditions context cause evidence with
  | some decision => decision
  | none =>
    match cause with
    | .explicitStop => .remainStopped .explicitStop
    | .normalShutdown => .remainStopped .normalShutdown
    | .deviceUnavailable _ => evaluateDeviceUnavailable evidence
    | .sourceReconfigured .defaultEndpointChanged => evaluateDefaultEndpointChange evidence
    | .sourceReconfigured .formatChanged => evaluateFormatChange evidence
    | .interrupted => evaluateInterruption evidence
    | .resourceExhausted => evaluateResourceExhaustion evidence
    | .unsupportedFormat => evaluateStoppedCause evidence.retryHint .unsupportedFormat
    | .internalFailure => evaluateStoppedCause evidence.retryHint .internalFailure
    | .startupFailure => .remainStopped .startupFailure
    | .workerPanic => .remainStopped .workerPanic

/-- How many automatic attempts the snapshot's episode started. -/
def automaticAttemptsStarted (retryState : RetrySnapshot) : UInt64 :=
  match retryState.recoveryEpisode with
  | some episode => episode.automaticRecoveryAttemptsStarted
  | none => 0

/-- Whether the snapshot's episode may start another automatic attempt. -/
def attemptsRemaining (configuration : RecoveryConfigurationSnapshot)
    (retryState : RetrySnapshot) : Bool :=
  retryState.recoveryEpisode.all (fun episode => episode.exhaustion.isNone) &&
    automaticAttemptsStarted retryState < configuration.maximumAutomaticRecoveryAttempts.toUInt64

/-- Whether the configuration requires a delay. -/
def delayRequired (configuration : RecoveryConfigurationSnapshot) : Bool :=
  configuration.cooldown ≠ .disabled || configuration.backoff ≠ .disabled

/-- Whether the delay that the configuration requires is over. -/
def cooldownComplete (configuration : RecoveryConfigurationSnapshot) (retryState : RetrySnapshot) :
    Bool :=
  !delayRequired configuration ||
    (match retryState.cooldown with
      | .satisfied _ _ => true
      | _ => false)

/-- The evidence that a disposition asks for. -/
def evaluateDisposition (disposition : FailureDisposition) (evidence : RecoveryEvidence) :
    Option RecoveryDecision :=
  match disposition with
  | .additionalEvidenceRequired requirement => evaluateAdditionalEvidence requirement evidence
  | _ => none

/-- The part of `evaluate_recovery_policy` that judges a recorded failure. -/
def evaluateFailure (configuration : RecoveryConfigurationSnapshot) (retryState : RetrySnapshot)
    (context : RecoveryContext) (cause : RecoveryCause) (evidence : RecoveryEvidence)
    (failure : RetryFailureCause) : RecoveryDecision :=
  let disposition := configuration.failureDisposition (failureClass failure)
  if !causeMatchesFailure cause failure then .remainStopped .inconsistentEvidence
  else if disposition = .nonRetryable then .remainStopped .configuredNonRetryable
  else
    match retryVeto evidence.retryHint with
    | some decision => decision
    | none =>
      if !attemptsRemaining configuration retryState then .remainStopped .retryBudgetExhausted
      else if !cooldownComplete configuration retryState then .wait .cooldownPending
      else
        let evidence := { evidence with
          attemptsRemaining := some (attemptsRemaining configuration retryState)
          cooldownComplete := some (cooldownComplete configuration retryState) }
        match evaluateDisposition disposition evidence with
        | some decision => decision
        | none => evaluateRecovery context cause evidence

/-- `evaluate_recovery_policy` -/
def evaluateRecoveryPolicy (configuration : RecoveryConfigurationSnapshot)
    (currentConfigurationId : RecoveryConfigurationIdentity) (retryState : RetrySnapshot)
    (context : RecoveryContext) (cause : RecoveryCause) (evidence : RecoveryEvidence) :
    RecoveryDecision :=
  if !context.desiredRunning || cause = .explicitStop then .remainStopped .explicitStop
  else if context.evaluatedIntentGeneration ≠ context.currentIntentGeneration then
    .remainStopped .staleIntent
  else if configuration.identity ≠ currentConfigurationId ∨
      retryState.configurationId ≠ configuration.identity then .remainStopped .staleConfiguration
  else if retryState.desiredRunning ≠ context.desiredRunning ∨
      retryState.intentGeneration.get ≠ context.evaluatedIntentGeneration then
    .remainStopped .inconsistentEvidence
  else
    match evaluateCommonPreconditions context cause evidence with
    | some decision => decision
    | none =>
      match retryState.lastFailure with
      | none => evaluateRecovery context cause evidence
      | some failure =>
        evaluateFailure configuration retryState context cause evidence failure.cause

/-! ## What a permission means -/

variable {configuration : RecoveryConfigurationSnapshot}
  {currentConfigurationId : RecoveryConfigurationIdentity} {retryState : RetrySnapshot}
  {context : RecoveryContext} {cause : RecoveryCause} {evidence : RecoveryEvidence}
  {reason : RecoveryDecisionReason}

/-- The common preconditions permit nothing. -/
theorem evaluateCommonPreconditions_ne_permit :
    evaluateCommonPreconditions context cause evidence ≠ some (.permitReplacement reason) := by
  unfold evaluateCommonPreconditions missingEvidence
  split
  · simp
  split
  · simp
  split
  · split
    · simp
    split
    · split
      · simp
      · split <;> simp
    · split <;> simp
  · simp

/-- A veto permits nothing. -/
theorem retryVeto_ne_permit {retryHint : Option RetryHint} :
    retryVeto retryHint ≠ some (.permitReplacement reason) := by
  unfold retryVeto
  split_ifs <;> simp

/-- A configuration that does not classify every failure as non-retryable requires a delay. -/
theorem delayRequired_of_retryable {cls : RecoveryFailureClass}
    (h : configuration.failureDisposition cls ≠ .nonRetryable) : delayRequired configuration := by
  have henabled : configuration.configuration.recoveryEnabled := by
    by_contra hdisabled
    rw [Bool.not_eq_true] at hdisabled
    exact h (RecoveryConfigurationSnapshot.nonRetryable_of_disabled hdisabled cls)
  obtain ⟨minimumDelay, reset, hcooldown⟩ :=
    RecoveryConfigurationSnapshot.cooldown_required_of_enabled henabled
  simp [delayRequired, hcooldown]

/-- Where a delay is required, it is over only with a satisfied cooldown. -/
theorem satisfied_of_cooldownComplete (hdelay : delayRequired configuration)
    (h : cooldownComplete configuration retryState) :
    ∃ requirement evidence, retryState.cooldown = .satisfied requirement evidence := by
  unfold cooldownComplete at h
  rw [hdelay, Bool.not_true, Bool.false_or] at h
  split at h
  · rename_i requirement evidence hsatisfied
    exact ⟨requirement, evidence, hsatisfied⟩
  · cases h

/-- What a permission on a snapshot with a recorded failure establishes. -/
structure Permits (configuration : RecoveryConfigurationSnapshot) (retryState : RetrySnapshot) :
    Prop where
  /-- The snapshot is of the configuration. -/
  identity : retryState.configurationId = configuration.identity
  /-- The episode is not exhausted, and started fewer automatic attempts than the maximum. -/
  remaining : attemptsRemaining configuration retryState
  /-- The cooldown is satisfied. -/
  satisfied : ∃ requirement evidence, retryState.cooldown = .satisfied requirement evidence

/-- A recorded failure permits a replacement only where attempts remain and the cooldown is
satisfied. -/
theorem evaluateFailure_permit {failure : RetryFailureCause}
    (h : evaluateFailure configuration retryState context cause evidence failure
      = .permitReplacement reason) :
    attemptsRemaining configuration retryState ∧
      ∃ requirement evidence, retryState.cooldown = .satisfied requirement evidence := by
  unfold evaluateFailure at h
  by_cases hmatch : causeMatchesFailure cause failure
  swap
  · simp [hmatch] at h
  by_cases hdisposition : configuration.failureDisposition (failureClass failure) = .nonRetryable
  · simp [hmatch, hdisposition] at h
  have hdelay := delayRequired_of_retryable hdisposition
  simp only [hmatch, hdisposition, Bool.not_true, Bool.false_eq_true, if_false] at h
  cases hveto : retryVeto evidence.retryHint with
  | some decision =>
    rw [hveto] at h
    obtain rfl : decision = .permitReplacement reason := h
    exact absurd hveto retryVeto_ne_permit
  | none =>
    -- The budget and the delay are computed here: the caller's own claims about them are dropped.
    by_cases hremaining : attemptsRemaining configuration retryState
    swap
    · simp [hveto, hremaining] at h
    by_cases hcomplete : cooldownComplete configuration retryState
    swap
    · simp [hveto, hremaining, hcomplete] at h
    exact ⟨hremaining, satisfied_of_cooldownComplete hdelay hcomplete⟩

/-- Of a snapshot with a recorded failure, the policy permits a replacement only where the snapshot
is of the configuration, attempts remain, and the cooldown is satisfied. -/
theorem permits_of_failure (hfailure : retryState.lastFailure.isSome)
    (h : evaluateRecoveryPolicy configuration currentConfigurationId retryState context cause
      evidence = .permitReplacement reason) : Permits configuration retryState := by
  obtain ⟨failure, hfailure⟩ := Option.isSome_iff_exists.mp hfailure
  unfold evaluateRecoveryPolicy at h
  rw [hfailure] at h
  split_ifs at h with hintent hgeneration hconfiguration hconsistent
  have hidentity := not_not.mp (not_or.mp hconfiguration).2
  cases hcommon : evaluateCommonPreconditions context cause evidence with
  | some decision =>
    rw [hcommon] at h
    obtain rfl : decision = .permitReplacement reason := h
    exact absurd hcommon evaluateCommonPreconditions_ne_permit
  | none =>
    rw [hcommon] at h
    obtain ⟨hremaining, hsatisfied⟩ := evaluateFailure_permit h
    exact ⟨hidentity, hremaining, hsatisfied⟩

end Recovery

end ResonanceSignal
