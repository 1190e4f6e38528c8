import ResonanceSignal.Agent.Recovery
import ResonanceSignal.Agent.RetryRuns

/-!
# The recovery policy fails closed

What a permission of the policy says about its inputs (`Justified`), and when the policy keeps to
it. A snapshot with a recorded failure is judged by the configuration: the caller's own claims about
the budget and the delay are overwritten before anything reads them (`failsClosed_of_failure`). A
snapshot without one is handed to the evaluator of the cause as it is, and whether that evaluator
reads the claims is decided by the rest of the evidence (`readsClaims`): where it does, the claims
change the decision, and where it does not, there is no permission (`causeRule_reads`).
-/

namespace ResonanceSignal

/-- The evidence with other claims about the budget and the delay. -/
def RecoveryEvidence.withClaims (self : RecoveryEvidence)
    (attemptsRemaining cooldownComplete : Option Bool) : RecoveryEvidence :=
  { self with attemptsRemaining, cooldownComplete }

/-- The evidence of an attempt that is over: its owner completed and released its resources, and its
terminal event was delivered exactly where its stream started. -/
structure RecoveryEvidence.Complete (evidence : RecoveryEvidence) : Prop where
  /-- The owner completed. -/
  ownerCompleted : evidence.ownerCompleted = some true
  /-- The resources were released. -/
  resourcesReleased : evidence.resourcesReleased = some true
  /-- It is known whether the stream started, and the terminal event is as it should be. -/
  terminalEvent : (evidence.streamStarted = some true ∧ evidence.terminalEventDelivered = some true) ∨
    (evidence.streamStarted = some false ∧ evidence.terminalEventDelivered ≠ some true)

namespace Recovery

variable {configuration : RecoveryConfigurationSnapshot}
  {currentConfigurationId : RecoveryConfigurationIdentity} {retryState : RetrySnapshot}
  {context : RecoveryContext} {cause : RecoveryCause} {evidence : RecoveryEvidence}
  {reason : RecoveryDecisionReason}

/-! ## The statement -/

/-- What justifies a permission: a recorded failure of the given cause that the configuration does
not rule out, an episode with attempts left, a delay that is over, and an attempt that is. -/
structure Justified (configuration : RecoveryConfigurationSnapshot) (retryState : RetrySnapshot)
    (cause : RecoveryCause) (evidence : RecoveryEvidence) : Prop where
  /-- The failure is recorded, and its class is not ruled out. -/
  failure : ∃ failure, retryState.lastFailure = some failure ∧
    causeMatchesFailure cause failure.cause ∧
    configuration.failureDisposition (failureClass failure.cause) ≠ .nonRetryable
  /-- The hint does not forbid a retry. -/
  hint : evidence.retryHint ≠ some .doNotRetry
  /-- The episode is not exhausted. -/
  notExhausted : ∀ episode, retryState.recoveryEpisode = some episode → episode.exhaustion = none
  /-- The episode started fewer automatic attempts than the maximum. -/
  attempts : (automaticAttemptsStarted retryState).toNat
    < configuration.maximumAutomaticRecoveryAttempts.toNat
  /-- A configured delay is over. -/
  cooldown : configuration.cooldown ≠ .disabled ∨ configuration.backoff ≠ .disabled →
    ∃ requirement evidence, retryState.cooldown = .satisfied requirement evidence
  /-- The owner completed. -/
  ownerCompleted : evidence.ownerCompleted = some true
  /-- The resources were released. -/
  resourcesReleased : evidence.resourcesReleased = some true
  /-- The terminal event of a stream that started was delivered. -/
  terminalEvent : evidence.streamStarted = some true → evidence.terminalEventDelivered = some true

/-- The policy fails closed on these inputs. -/
structure FailsClosed (configuration : RecoveryConfigurationSnapshot)
    (currentConfigurationId : RecoveryConfigurationIdentity) (retryState : RetrySnapshot)
    (context : RecoveryContext) (cause : RecoveryCause) (evidence : RecoveryEvidence) : Prop where
  /-- A permission is justified. -/
  justified : ∀ reason, evaluateRecoveryPolicy configuration currentConfigurationId retryState
    context cause evidence = .permitReplacement reason →
      Justified configuration retryState cause evidence
  /-- Where recovery is disabled there is no permission. -/
  disabled : configuration.configuration.recoveryEnabled = false → ∀ reason,
    evaluateRecoveryPolicy configuration currentConfigurationId retryState context cause evidence
      ≠ .permitReplacement reason
  /-- The caller's claims about the budget and the delay change nothing. -/
  claims : ∀ attemptsRemaining cooldownComplete,
    evaluateRecoveryPolicy configuration currentConfigurationId retryState context cause
        (evidence.withClaims attemptsRemaining cooldownComplete)
      = evaluateRecoveryPolicy configuration currentConfigurationId retryState context cause evidence

/-- The policy gets past its checks of the intent, the configuration and the lifecycle. -/
structure Admitted (configuration : RecoveryConfigurationSnapshot)
    (currentConfigurationId : RecoveryConfigurationIdentity) (retryState : RetrySnapshot)
    (context : RecoveryContext) (cause : RecoveryCause) (evidence : RecoveryEvidence) : Prop where
  /-- Capture is wanted. -/
  desiredRunning : context.desiredRunning = true
  /-- The cause is no stop. -/
  notStopped : cause ≠ .explicitStop
  /-- The evaluated generation is current. -/
  generation : context.evaluatedIntentGeneration = context.currentIntentGeneration
  /-- The configuration is current. -/
  current : configuration.identity = currentConfigurationId
  /-- The snapshot is bound to it. -/
  binding : retryState.configurationId = configuration.identity
  /-- The snapshot wants capture as well. -/
  snapshotRunning : retryState.desiredRunning = true
  /-- The snapshot is of the evaluated generation. -/
  snapshotGeneration : retryState.intentGeneration.get = context.evaluatedIntentGeneration
  /-- The attempt is over. -/
  complete : evidence.Complete

/-- The evaluator of the cause reads the caller's claims: nothing before it decides. -/
def readsClaims (cause : RecoveryCause) (evidence : RecoveryEvidence) : Bool :=
  match cause with
  | .deviceUnavailable _ =>
    evidence.retryHint = some .waitForSource && evidence.sourcePolicy.isSome &&
      evidence.sourceAvailable.isSome
  | .sourceReconfigured .defaultEndpointChanged =>
    evidence.retryHint.isSome && evidence.retryHint ≠ some .doNotRetry &&
      evidence.sourcePolicy.isSome && evidence.replacementSourceResolved.isSome
  | .sourceReconfigured .formatChanged =>
    evidence.retryHint.isSome && evidence.retryHint ≠ some .doNotRetry &&
      evidence.supportedFormatAvailable.isSome
  | .interrupted => evidence.retryHint ≠ some .doNotRetry
  | .resourceExhausted =>
    evidence.retryHint.isSome && evidence.retryHint ≠ some .doNotRetry &&
      evidence.pressureCleared.isSome
  | _ => false

/-- The caller's claims are read although the snapshot records no failure. -/
def TrustsCaller (configuration : RecoveryConfigurationSnapshot)
    (currentConfigurationId : RecoveryConfigurationIdentity) (retryState : RetrySnapshot)
    (context : RecoveryContext) (cause : RecoveryCause) (evidence : RecoveryEvidence) : Prop :=
  retryState.lastFailure = none ∧
    Admitted configuration currentConfigurationId retryState context cause evidence ∧
    readsClaims cause evidence

/-! ## Admission -/

/-- The common preconditions pass exactly for a wanted, current attempt that is over. -/
theorem evaluateCommonPreconditions_eq_none :
    evaluateCommonPreconditions context cause evidence = none ↔
      context.desiredRunning = true ∧ cause ≠ .explicitStop ∧
        context.evaluatedIntentGeneration = context.currentIntentGeneration ∧
        evidence.Complete := by
  constructor
  · -- The checks in their order: intent, generation, cleanup, and the end of the stream.
    intro h
    unfold evaluateCommonPreconditions at h
    split at h
    · cases h
    next hintent =>
      split at h
      · cases h
      next hgeneration =>
        simp only [Bool.or_eq_true, Bool.not_eq_true', decide_eq_true_eq, not_or,
          Bool.not_eq_false] at hintent
        refine ⟨hintent.1, hintent.2, not_not.mp hgeneration, ?_⟩
        split at h
        next streamStarted ownerCompleted resourcesReleased hstarted howner hreleased =>
          split at h
          · cases h
          next hreleasing =>
            simp only [Bool.or_eq_true, Bool.not_eq_true', not_or, Bool.not_eq_false] at hreleasing
            obtain ⟨rfl, rfl⟩ := hreleasing
            refine ⟨howner, hreleased, ?_⟩
            split at h
            next hrunning =>
              split at h
              · cases h
              next delivered hdelivered =>
                cases delivered with
                | false => cases h
                | true => exact .inl ⟨hrunning ▸ hstarted, hdelivered⟩
            next hrunning =>
              split at h
              · cases h
              next hdelivered =>
                rw [Bool.not_eq_true] at hrunning
                exact .inr ⟨hrunning ▸ hstarted, hdelivered⟩
        · cases h
  · rintro ⟨hrunning, hcause, hgeneration, howner, hreleased, hterminal⟩
    unfold evaluateCommonPreconditions
    rcases hterminal with ⟨hstarted, hdelivered⟩ | ⟨hstarted, hdelivered⟩ <;>
      simp [hrunning, hcause, hgeneration, howner, hreleased, hstarted, hdelivered]

/-- An admitted evaluation is decided by the recorded failure, or without one by the cause. -/
theorem evaluateRecoveryPolicy_admitted
    (h : Admitted configuration currentConfigurationId retryState context cause evidence) :
    evaluateRecoveryPolicy configuration currentConfigurationId retryState context cause evidence =
      match retryState.lastFailure with
      | none => evaluateRecovery context cause evidence
      | some failure =>
        evaluateFailure configuration retryState context cause evidence failure.cause := by
  have hcommon := evaluateCommonPreconditions_eq_none.mpr
    ⟨h.desiredRunning, h.notStopped, h.generation, h.complete⟩
  unfold evaluateRecoveryPolicy
  simp only [h.desiredRunning, h.notStopped, h.generation, h.current, h.binding,
    h.snapshotRunning, h.snapshotGeneration, hcommon]
  cases retryState.lastFailure <;> simp

/-- An evaluation that is not admitted is refused, whatever the caller's claims. -/
theorem evaluateRecoveryPolicy_refused
    (h : ¬Admitted configuration currentConfigurationId retryState context cause evidence) :
    ∃ decision, (∀ reason, decision ≠ .permitReplacement reason) ∧
      ∀ attemptsRemaining cooldownComplete,
        evaluateRecoveryPolicy configuration currentConfigurationId retryState context cause
          (evidence.withClaims attemptsRemaining cooldownComplete) = decision := by
  unfold evaluateRecoveryPolicy
  split
  · exact ⟨.remainStopped .explicitStop, by simp, fun _ _ => rfl⟩
  next hintent =>
    split
    · exact ⟨.remainStopped .staleIntent, by simp, fun _ _ => rfl⟩
    next hgeneration =>
      split
      · exact ⟨.remainStopped .staleConfiguration, by simp, fun _ _ => rfl⟩
      next hconfiguration =>
        split
        · exact ⟨.remainStopped .inconsistentEvidence, by simp, fun _ _ => rfl⟩
        next hconsistent =>
          -- The preconditions do not look at the claims.
          cases hcommon : evaluateCommonPreconditions context cause evidence with
          | some decision =>
            refine ⟨decision, ?_, ?_⟩
            · intro reason heq
              rw [heq] at hcommon
              exact evaluateCommonPreconditions_ne_permit hcommon
            · intro attemptsRemaining cooldownComplete
              have hsame : evaluateCommonPreconditions context cause
                  (evidence.withClaims attemptsRemaining cooldownComplete) = some decision :=
                hcommon
              rw [hsame]
          | none =>
            push Not at hconfiguration hconsistent
            obtain ⟨hrunning, hcause, -, hcomplete⟩ :=
              evaluateCommonPreconditions_eq_none.mp hcommon
            exact absurd ⟨hrunning, hcause, not_not.mp hgeneration, hconfiguration.1,
              hconfiguration.2, hconsistent.1.trans hrunning, hconsistent.2, hcomplete⟩ h

/-- The claims do not decide whether an evaluation is admitted. -/
theorem Admitted.withClaims
    (h : Admitted configuration currentConfigurationId retryState context cause evidence)
    (attemptsRemaining cooldownComplete : Option Bool) :
    Admitted configuration currentConfigurationId retryState context cause
      (evidence.withClaims attemptsRemaining cooldownComplete) :=
  ⟨h.desiredRunning, h.notStopped, h.generation, h.current, h.binding, h.snapshotRunning,
    h.snapshotGeneration,
    ⟨h.complete.ownerCompleted, h.complete.resourcesReleased, h.complete.terminalEvent⟩⟩

/-! ## The evaluators of the causes -/

/-- An evaluator that decides without the claims gives no permission. -/
def IgnoresClaims (evaluate : RecoveryEvidence → RecoveryDecision) (evidence : RecoveryEvidence) :
    Prop :=
  ∃ decision, (∀ reason, decision ≠ .permitReplacement reason) ∧
    ∀ attemptsRemaining cooldownComplete,
      evaluate (evidence.withClaims attemptsRemaining cooldownComplete) = decision

/-- An evaluator that reads the claims misses them where the caller makes none, and decides where it
claims that no attempts remain. -/
def NeedsClaims (evaluate : RecoveryEvidence → RecoveryDecision) (evidence : RecoveryEvidence) :
    Prop :=
  evaluate (evidence.withClaims none (some true)) = missingEvidence ∧
    evaluate (evidence.withClaims (some false) (some true)) ≠ missingEvidence

/-- What the claims do to a rule: where it does not read them it stays stopped for one reason, and
where it does it misses them if they are not made, and stops for another reason if no attempts
remain. -/
structure Reads (evaluate : RecoveryEvidence → RecoveryDecision) (reads : Bool)
    (evidence : RecoveryEvidence) : Prop where
  /-- Claims that are not read change nothing. -/
  unread : reads = false → ∃ reason, ∀ attemptsRemaining cooldownComplete,
    evaluate (evidence.withClaims attemptsRemaining cooldownComplete) = .remainStopped reason
  /-- The claim about the budget is missed. -/
  unclaimed : reads = true → evaluate (evidence.withClaims none (some true)) = missingEvidence
  /-- The claim about the budget decides. -/
  exhausted : reads = true → ∃ reason, reason ≠ .missingEvidence ∧
    evaluate (evidence.withClaims (some false) (some true)) = .remainStopped reason

variable {evaluate : RecoveryEvidence → RecoveryDecision} {reads : Bool}

/-- A rule that reads the claims needs them. -/
theorem Reads.needs (h : Reads evaluate reads evidence) (hreads : reads = true) :
    NeedsClaims evaluate evidence := by
  obtain ⟨reason, hne, hexhausted⟩ := h.exhausted hreads
  refine ⟨h.unclaimed hreads, ?_⟩
  rw [hexhausted]
  simpa [missingEvidence] using hne

/-- A rule that does not read them ignores them. -/
theorem Reads.ignores (h : Reads evaluate reads evidence) (hreads : reads = false) :
    IgnoresClaims evaluate evidence := by
  obtain ⟨reason, hstopped⟩ := h.unread hreads
  exact ⟨.remainStopped reason, by simp, hstopped⟩

/-- A rule that stays stopped for one reason reads no claims. -/
theorem Reads.of_stopped (reason : RecoveryDecisionReason) (hreads : reads = false)
    (h : ∀ attemptsRemaining cooldownComplete,
      evaluate (evidence.withClaims attemptsRemaining cooldownComplete) = .remainStopped reason) :
    Reads evaluate reads evidence := by
  subst hreads
  exact ⟨fun _ => ⟨reason, h⟩, fun h => absurd h Bool.false_ne_true,
    fun h => absurd h Bool.false_ne_true⟩

/-- A rule looks at the veto of the hint first. -/
theorem Reads.of_veto
    (hveto : ∀ evidence decision, retryVeto evidence.retryHint = some decision →
      evaluate evidence = decision)
    (hreads : evidence.retryHint = some .doNotRetry → reads = false)
    (h : retryVeto evidence.retryHint = none → Reads evaluate reads evidence) :
    Reads evaluate reads evidence := by
  by_cases hhint : evidence.retryHint = some .doNotRetry
  · exact .of_stopped .retryVetoed (hreads hhint) fun _ _ => hveto _ _ (if_pos hhint)
  · exact h (if_neg hhint)

/-- After the veto, a rule misses the budget and the other evidence it needs together, and a budget
that is exhausted decides. -/
theorem Reads.of_budget (unknown : Bool) (hreads : reads = !unknown)
    (hmissing : ∀ attemptsRemaining cooldownComplete,
      unknown = true ∨ attemptsRemaining = none →
      evaluate (evidence.withClaims attemptsRemaining cooldownComplete) = missingEvidence)
    (hexhausted : unknown = false → ∃ reason, reason ≠ .missingEvidence ∧
      evaluate (evidence.withClaims (some false) (some true)) = .remainStopped reason) :
    Reads evaluate reads evidence := by
  subst hreads
  refine ⟨fun h => ⟨_, fun _ _ => hmissing _ _ (.inl (by simpa using h))⟩,
    fun _ => hmissing _ _ (.inr rfl), fun h => hexhausted (by simpa using h)⟩

/-- A hint that vetoes nothing is not the one that does. -/
theorem retryHint_of_retryVeto {retryHint : Option RetryHint} (h : retryVeto retryHint = none) :
    retryHint ≠ some .doNotRetry := by
  rintro rfl
  cases h

/-- When the rule of a changed format reads the claims. -/
theorem evaluateFormatChange_reads :
    Reads evaluateFormatChange (readsClaims (.sourceReconfigured .formatChanged) evidence)
      evidence := by
  refine .of_veto (fun e d h => by simp [evaluateFormatChange, h])
    (fun h => by simp [readsClaims, h]) fun hveto => ?_
  have hhint := retryHint_of_retryVeto hveto
  have hveto' (a c : Option Bool) : retryVeto (evidence.withClaims a c).retryHint = none := hveto
  refine .of_budget (evidence.retryHint.isNone || evidence.supportedFormatAvailable.isNone) ?_ ?_ ?_
  · simp [readsClaims, hhint]
  · intro a c h
    unfold evaluateFormatChange
    rw [hveto']
    exact if_pos (by simpa [RecoveryEvidence.withClaims, or_assoc] using h)
  · intro h
    refine ⟨.retryBudgetExhausted, by simp, ?_⟩
    unfold evaluateFormatChange
    rw [hveto']
    simp [RecoveryEvidence.withClaims, h]

/-- When the rule of a changed default endpoint reads the claims. -/
theorem evaluateDefaultEndpointChange_reads :
    Reads evaluateDefaultEndpointChange
      (readsClaims (.sourceReconfigured .defaultEndpointChanged) evidence) evidence := by
  refine .of_veto (fun e d h => by simp [evaluateDefaultEndpointChange, h])
    (fun h => by simp [readsClaims, h]) fun hveto => ?_
  have hhint := retryHint_of_retryVeto hveto
  have hveto' (a c : Option Bool) : retryVeto (evidence.withClaims a c).retryHint = none := hveto
  refine .of_budget (evidence.retryHint.isNone || evidence.sourcePolicy.isNone ||
    evidence.replacementSourceResolved.isNone) ?_ ?_ ?_
  · simp [readsClaims, hhint]
  · intro a c h
    unfold evaluateDefaultEndpointChange
    rw [hveto']
    exact if_pos (by simpa [RecoveryEvidence.withClaims, or_assoc] using h)
  · intro h
    by_cases hpinned : evidence.sourcePolicy = some .pinned
    · refine ⟨.pinnedSource, by simp, ?_⟩
      unfold evaluateDefaultEndpointChange
      rw [hveto']
      simp only [RecoveryEvidence.withClaims, h]
      simp [hpinned]
    · refine ⟨.retryBudgetExhausted, by simp, ?_⟩
      unfold evaluateDefaultEndpointChange
      rw [hveto']
      simp [RecoveryEvidence.withClaims, h, hpinned]

/-- When the rule of an interruption reads the claims. -/
theorem evaluateInterruption_reads :
    Reads evaluateInterruption (readsClaims .interrupted evidence) evidence := by
  refine .of_veto (fun e d h => by simp [evaluateInterruption, h])
    (fun h => by simp [readsClaims, h]) fun hveto => ?_
  have hhint := retryHint_of_retryVeto hveto
  have hveto' (a c : Option Bool) : retryVeto (evidence.withClaims a c).retryHint = none := hveto
  refine .of_budget false ?_ ?_ ?_
  · simp [readsClaims, hhint]
  · rintro a c (h | rfl)
    · cases h
    · unfold evaluateInterruption
      rw [hveto']
      rfl
  · intro _
    refine ⟨.retryBudgetExhausted, by simp, ?_⟩
    unfold evaluateInterruption
    rw [hveto']
    rfl

/-- When the rule of an unavailable device reads the claims. -/
theorem evaluateDeviceUnavailable_reads {unavailable : DeviceUnavailableCause} :
    Reads evaluateDeviceUnavailable (readsClaims (.deviceUnavailable unavailable) evidence)
      evidence := by
  refine .of_veto (fun e d h => by simp [evaluateDeviceUnavailable, h])
    (fun h => by simp [readsClaims, h]) fun hveto => ?_
  have hveto' (a c : Option Bool) : retryVeto (evidence.withClaims a c).retryHint = none := hveto
  by_cases hwait : evidence.retryHint = some .waitForSource
  · refine .of_budget (evidence.sourcePolicy.isNone || evidence.sourceAvailable.isNone) ?_ ?_ ?_
    · simp [readsClaims, hwait]
    · intro a c h
      unfold evaluateDeviceUnavailable
      rw [hveto']
      have hwait' : ¬(evidence.withClaims a c).retryHint ≠ some .waitForSource := not_not.mpr hwait
      dsimp only
      rw [if_neg hwait']
      exact if_pos (by simpa [RecoveryEvidence.withClaims, or_assoc] using h)
    · intro h
      refine ⟨.retryBudgetExhausted, by simp, ?_⟩
      unfold evaluateDeviceUnavailable
      rw [hveto']
      simp [RecoveryEvidence.withClaims, hwait, h]
  · -- Another hint, or none, is decided before the claims.
    have hunread : readsClaims (.deviceUnavailable unavailable) evidence = false := by
      simp [readsClaims, hwait]
    cases hhint : evidence.retryHint with
    | none =>
      refine .of_stopped .missingEvidence hunread fun a c => ?_
      unfold evaluateDeviceUnavailable
      rw [hveto']
      simp [RecoveryEvidence.withClaims, hhint, missingEvidence]
    | some hint =>
      refine .of_stopped .inconsistentEvidence hunread fun a c => ?_
      unfold evaluateDeviceUnavailable
      rw [hveto']
      rw [hhint] at hwait
      simp [RecoveryEvidence.withClaims, hhint, hwait]

/-- When the rule of exhausted resources reads the claims. -/
theorem evaluateResourceExhaustion_reads :
    Reads evaluateResourceExhaustion (readsClaims .resourceExhausted evidence) evidence := by
  refine .of_veto (fun e d h => by simp [evaluateResourceExhaustion, h])
    (fun h => by simp [readsClaims, h]) fun hveto => ?_
  have hhint := retryHint_of_retryVeto hveto
  have hveto' (a c : Option Bool) : retryVeto (evidence.withClaims a c).retryHint = none := hveto
  refine .of_budget (evidence.retryHint.isNone || evidence.pressureCleared.isNone) ?_ ?_ ?_
  · simp [readsClaims, hhint]
  · intro a c h
    unfold evaluateResourceExhaustion
    rw [hveto']
    refine if_pos ?_
    simp only [RecoveryEvidence.withClaims, Bool.or_eq_true, Option.isNone_iff_eq_none] at h ⊢
    tauto
  · intro h
    by_cases hlater : evidence.retryHint = some .retryLater
    · refine ⟨.retryBudgetExhausted, by simp, ?_⟩
      unfold evaluateResourceExhaustion
      rw [hveto']
      simp only [hlater, Option.isNone_some, Bool.false_or] at h
      simp [RecoveryEvidence.withClaims, hlater, h]
    · refine ⟨.inconsistentEvidence, by simp, ?_⟩
      unfold evaluateResourceExhaustion
      rw [hveto']
      simp only [Bool.or_eq_false_iff] at h
      simp [RecoveryEvidence.withClaims, hlater, h]

/-- The rule of a cause that stays stopped does so for one reason. -/
theorem exists_evaluateStoppedCause (retryHint : Option RetryHint)
    (reason : RecoveryDecisionReason) :
    ∃ stopped, evaluateStoppedCause retryHint reason = .remainStopped stopped := by
  unfold evaluateStoppedCause retryVeto missingEvidence
  split_ifs
  · exact ⟨_, rfl⟩
  · exact ⟨_, rfl⟩
  · exact ⟨_, rfl⟩

/-- The rule of a cause, which `evaluateRecovery` follows after its common preconditions. -/
def causeRule : RecoveryCause → RecoveryEvidence → RecoveryDecision
  | .explicitStop, _ => .remainStopped .explicitStop
  | .normalShutdown, _ => .remainStopped .normalShutdown
  | .deviceUnavailable _, evidence => evaluateDeviceUnavailable evidence
  | .sourceReconfigured .defaultEndpointChanged, evidence => evaluateDefaultEndpointChange evidence
  | .sourceReconfigured .formatChanged, evidence => evaluateFormatChange evidence
  | .interrupted, evidence => evaluateInterruption evidence
  | .resourceExhausted, evidence => evaluateResourceExhaustion evidence
  | .unsupportedFormat, evidence => evaluateStoppedCause evidence.retryHint .unsupportedFormat
  | .internalFailure, evidence => evaluateStoppedCause evidence.retryHint .internalFailure
  | .startupFailure, _ => .remainStopped .startupFailure
  | .workerPanic, _ => .remainStopped .workerPanic

/-- After the common preconditions the cause decides. -/
theorem evaluateRecovery_eq (h : evaluateCommonPreconditions context cause evidence = none) :
    evaluateRecovery context cause evidence = causeRule cause evidence := by
  unfold evaluateRecovery
  rw [h]
  cases cause with
  | sourceReconfigured change => cases change <;> rfl
  | _ => rfl

/-- The rule of a cause reads the claims where `readsClaims` says so, and only there. -/
theorem causeRule_reads (cause : RecoveryCause) (evidence : RecoveryEvidence) :
    Reads (causeRule cause) (readsClaims cause evidence) evidence := by
  have hstopped (reason : RecoveryDecisionReason) : ∃ stopped, ∀ a c,
      evaluateStoppedCause (evidence.withClaims a c).retryHint reason = .remainStopped stopped := by
    obtain ⟨stopped, h⟩ := exists_evaluateStoppedCause evidence.retryHint reason
    exact ⟨stopped, fun _ _ => h⟩
  cases cause with
  | deviceUnavailable unavailable => exact evaluateDeviceUnavailable_reads
  | sourceReconfigured change =>
    cases change with
    | defaultEndpointChanged => exact evaluateDefaultEndpointChange_reads
    | formatChanged => exact evaluateFormatChange_reads
  | interrupted => exact evaluateInterruption_reads
  | resourceExhausted => exact evaluateResourceExhaustion_reads
  | unsupportedFormat =>
    obtain ⟨stopped, h⟩ := hstopped .unsupportedFormat
    exact .of_stopped stopped rfl h
  | internalFailure =>
    obtain ⟨stopped, h⟩ := hstopped .internalFailure
    exact .of_stopped stopped rfl h
  | explicitStop => exact .of_stopped .explicitStop rfl fun _ _ => rfl
  | normalShutdown => exact .of_stopped .normalShutdown rfl fun _ _ => rfl
  | startupFailure => exact .of_stopped .startupFailure rfl fun _ _ => rfl
  | workerPanic => exact .of_stopped .workerPanic rfl fun _ _ => rfl

/-! ## When the policy fails closed -/

/-- Where a refusal does not depend on the claims, the policy fails closed. -/
theorem FailsClosed.of_refused {decision : RecoveryDecision}
    (hpermit : ∀ reason, decision ≠ .permitReplacement reason)
    (h : ∀ attemptsRemaining cooldownComplete,
      evaluateRecoveryPolicy configuration currentConfigurationId retryState context cause
        (evidence.withClaims attemptsRemaining cooldownComplete) = decision) :
    FailsClosed configuration currentConfigurationId retryState context cause evidence := by
  have hown : evaluateRecoveryPolicy configuration currentConfigurationId retryState context cause
      evidence = decision := h evidence.attemptsRemaining evidence.cooldownComplete
  refine ⟨?_, ?_, ?_⟩
  · intro reason heq
    exact absurd (hown.symm.trans heq) (hpermit reason)
  · intro _ reason heq
    exact absurd (hown.symm.trans heq) (hpermit reason)
  · intro attemptsRemaining cooldownComplete
    rw [h, hown]

/-- A permission on a recorded failure is justified. -/
theorem justified_of_failure {failure : FailureRecord}
    (hadmitted : Admitted configuration currentConfigurationId retryState context cause evidence)
    (hfailure : retryState.lastFailure = some failure)
    (h : evaluateFailure configuration retryState context cause evidence failure.cause
      = .permitReplacement reason) : Justified configuration retryState cause evidence := by
  have hpermit := h
  unfold evaluateFailure at hpermit
  by_cases hmatch : causeMatchesFailure cause failure.cause
  swap
  · simp [hmatch] at hpermit
  by_cases hdisposition :
      configuration.failureDisposition (failureClass failure.cause) = .nonRetryable
  · simp [hmatch, hdisposition] at hpermit
  have hveto : evidence.retryHint ≠ some .doNotRetry := by
    intro hhint
    simp [hmatch, hdisposition, retryVeto, hhint] at hpermit
  obtain ⟨hremaining, hsatisfied⟩ := evaluateFailure_permit h
  unfold attemptsRemaining at hremaining
  rw [Bool.and_eq_true, decide_eq_true_eq] at hremaining
  obtain ⟨hexhaustion, hattempts⟩ := hremaining
  refine ⟨⟨failure, hfailure, hmatch, hdisposition⟩, hveto, ?_, ?_, fun _ => hsatisfied,
    hadmitted.complete.ownerCompleted, hadmitted.complete.resourcesReleased, ?_⟩
  · intro episode hepisode
    rw [hepisode] at hexhaustion
    simpa using hexhaustion
  · simpa [UInt64.lt_iff_toNat_lt] using hattempts
  · intro hstarted
    rcases hadmitted.complete.terminalEvent with ⟨-, hdelivered⟩ | ⟨hnever, -⟩
    · exact hdelivered
    · rw [hnever] at hstarted
      cases hstarted

/-- The policy fails closed on a snapshot with a recorded failure. -/
theorem failsClosed_of_failure (hfailure : retryState.lastFailure.isSome) :
    FailsClosed configuration currentConfigurationId retryState context cause evidence := by
  obtain ⟨failure, hfailure⟩ := Option.isSome_iff_exists.mp hfailure
  by_cases hadmitted :
      Admitted configuration currentConfigurationId retryState context cause evidence
  swap
  · obtain ⟨decision, hpermit, hdecision⟩ := evaluateRecoveryPolicy_refused hadmitted
    exact .of_refused hpermit hdecision
  have heq : ∀ attemptsRemaining cooldownComplete,
      evaluateRecoveryPolicy configuration currentConfigurationId retryState context cause
          (evidence.withClaims attemptsRemaining cooldownComplete)
        = evaluateFailure configuration retryState context cause
          (evidence.withClaims attemptsRemaining cooldownComplete) failure.cause := by
    intro attemptsRemaining cooldownComplete
    rw [evaluateRecoveryPolicy_admitted (hadmitted.withClaims attemptsRemaining cooldownComplete),
      hfailure]
  have hjustified : ∀ reason, evaluateRecoveryPolicy configuration currentConfigurationId retryState
      context cause evidence = .permitReplacement reason →
        Justified configuration retryState cause evidence := by
    intro reason hpermit
    rw [evaluateRecoveryPolicy_admitted hadmitted, hfailure] at hpermit
    exact justified_of_failure hadmitted hfailure hpermit
  refine ⟨hjustified, ?_, ?_⟩
  · intro hdisabled reason hpermit
    obtain ⟨_, -, -, hretryable⟩ := (hjustified reason hpermit).failure
    exact hretryable (RecoveryConfigurationSnapshot.nonRetryable_of_disabled hdisabled _)
  · -- The failure's evaluation overwrites both claims.
    intro attemptsRemaining cooldownComplete
    rw [heq]
    exact (heq evidence.attemptsRemaining evidence.cooldownComplete).symm

/-- Without a recorded failure, an admitted evaluation is decided by the rule of the cause. -/
theorem evaluateRecoveryPolicy_withoutFailure (hnone : retryState.lastFailure = none)
    (hadmitted : Admitted configuration currentConfigurationId retryState context cause evidence)
    (attemptsRemaining cooldownComplete : Option Bool) :
    evaluateRecoveryPolicy configuration currentConfigurationId retryState context cause
        (evidence.withClaims attemptsRemaining cooldownComplete)
      = causeRule cause (evidence.withClaims attemptsRemaining cooldownComplete) := by
  have hadmitted := hadmitted.withClaims attemptsRemaining cooldownComplete
  have hcommon := evaluateCommonPreconditions_eq_none.mpr
    ⟨hadmitted.desiredRunning, hadmitted.notStopped, hadmitted.generation, hadmitted.complete⟩
  rw [evaluateRecoveryPolicy_admitted hadmitted, hnone]
  exact evaluateRecovery_eq hcommon

/-- The policy fails closed exactly where the caller is not trusted: a failure is recorded, or the
evaluation is refused or decided before the caller's claims are read. -/
theorem policy_fails_closed_iff (configuration : RecoveryConfigurationSnapshot)
    (currentConfigurationId : RecoveryConfigurationIdentity) (retryState : RetrySnapshot)
    (context : RecoveryContext) (cause : RecoveryCause) (evidence : RecoveryEvidence) :
    FailsClosed configuration currentConfigurationId retryState context cause evidence ↔
      ¬TrustsCaller configuration currentConfigurationId retryState context cause evidence := by
  constructor
  · rintro hclosed ⟨hnone, hadmitted, hreads⟩
    obtain ⟨hmissing, hdecided⟩ := (causeRule_reads cause evidence).needs hreads
    rw [← evaluateRecoveryPolicy_withoutFailure hnone hadmitted, hclosed.claims]
      at hmissing hdecided
    exact hdecided hmissing
  · intro htrusts
    by_cases hfailure : retryState.lastFailure.isSome
    · exact failsClosed_of_failure hfailure
    have hnone := Option.not_isSome_iff_eq_none.mp hfailure
    by_cases hadmitted :
        Admitted configuration currentConfigurationId retryState context cause evidence
    · have hreads : readsClaims cause evidence = false := by
        by_contra hreads
        exact htrusts ⟨hnone, hadmitted, Bool.of_not_eq_false hreads⟩
      obtain ⟨decision, hpermit, hdecision⟩ := (causeRule_reads cause evidence).ignores hreads
      refine .of_refused hpermit fun attemptsRemaining cooldownComplete => ?_
      rw [evaluateRecoveryPolicy_withoutFailure hnone hadmitted, hdecision]
    · obtain ⟨decision, hpermit, hdecision⟩ := evaluateRecoveryPolicy_refused hadmitted
      exact .of_refused hpermit hdecision

/-- Recovery is disabled. -/
def disabledConfiguration : RecoveryConfiguration where
  version := .first
  attemptBudget := ⟨0, .remainStoppedUntilNewIntent⟩
  cooldown := .disabled
  backoff := .disabled
  failureClassification := .uniform .nonRetryable
  stableRunReset := .newIntentOnly

/-- The validated configuration. -/
def disabledSnapshot : RecoveryConfigurationSnapshot :=
  ⟨disabledConfiguration.identity, disabledConfiguration, by decide +kernel, rfl⟩

/-- The snapshot of a state in which capture was started, and nothing else happened. -/
def startedSnapshot : RetrySnapshot :=
  ⟨true, ⟨1⟩, ⟨1⟩, disabledSnapshot.identity, .idle, 0, none, none, none, [], .zero, 0, .notRequired⟩

/-- A caller that claims everything a replacement after an interruption needs. -/
def eagerEvidence : RecoveryEvidence :=
  ⟨some false, none, some true, some true, some .retryNow, some true, some true, none, none, none,
    none, none, none⟩

/-- On the snapshot of a started state the disabled configuration permits a replacement. -/
theorem disabled_configuration_permits :
    (∃ s, (RetryState.operations 1).Run RetryState.freshState
        [(.explicitStart disabledSnapshot.identity, .ok (.generation ⟨1⟩))] s ∧
      s.snapshot = .ok startedSnapshot) ∧
    disabledSnapshot.configuration.recoveryEnabled = false ∧
    evaluateRecoveryPolicy disabledSnapshot disabledSnapshot.identity startedSnapshot ⟨true, 1, 1⟩
      .interrupted eagerEvidence = .permitReplacement .retryEligible ∧
    ¬FailsClosed disabledSnapshot disabledSnapshot.identity startedSnapshot ⟨true, 1, 1⟩
      .interrupted eagerEvidence := by
  have hdisabled : disabledSnapshot.configuration.recoveryEnabled = false := by decide +kernel
  have hpermit : evaluateRecoveryPolicy disabledSnapshot disabledSnapshot.identity startedSnapshot
      ⟨true, 1, 1⟩ .interrupted eagerEvidence = .permitReplacement .retryEligible := by
    decide +kernel
  refine ⟨?_, hdisabled, hpermit, fun hclosed => hclosed.disabled hdisabled _ hpermit⟩
  exact ⟨(RetryState.freshState.apply (.explicitStart disabledSnapshot.identity)).2,
    ⟨_, RetryState.step_of_outcome rfl, rfl⟩, rfl⟩

end Recovery

end ResonanceSignal
