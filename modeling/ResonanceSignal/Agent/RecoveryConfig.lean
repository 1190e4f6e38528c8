import ResonanceSignal.Core.Signal
import ResonanceSignal.Lib.LittleEndian
import ResonanceSignal.Lib.Result

/-!
# The validated recovery configuration

The configuration of `recovery_config.rs`: the definition at the validation boundary, its checks,
and the identity of a validated definition, whose fingerprint is two FNV-style lanes over a fixed
byte encoding. A `RecoveryConfigurationSnapshot` carries the proof that its configuration passed the
checks, from which the policy's two facts follow: a configuration that permits no attempt classifies
every failure as non-retryable (`nonRetryable_of_disabled`), and one that permits some requires a
cooldown (`cooldown_required_of_enabled`).
-/

namespace ResonanceSignal

/-- `Duration::is_zero` -/
def Duration.isZero (d : Duration) : Bool := d.asNanos = 0

/-- `CONFIGURATION_SCHEMA_VERSION` -/
def configurationSchemaVersion : UInt16 := 1

/-- The operator-controlled version of a configuration, which is not zero. -/
structure RecoveryConfigurationVersion where
  /-- The number. -/
  get : UInt64
  ne_zero : get ≠ 0
deriving DecidableEq, Repr

/-- `RecoveryConfigurationVersion::new` -/
def RecoveryConfigurationVersion.new (value : UInt64) : Option RecoveryConfigurationVersion :=
  if h : value ≠ 0 then some ⟨value, h⟩ else none

/-- The first version. -/
def RecoveryConfigurationVersion.first : RecoveryConfigurationVersion := ⟨1, by decide⟩

/-- The identity of one validated configuration definition. -/
structure RecoveryConfigurationIdentity where
  /-- The schema of the encoding. -/
  schemaVersion : UInt16
  /-- The explicit version. -/
  version : RecoveryConfigurationVersion
  /-- The fingerprint of the content, a `u128`. -/
  fingerprint : ℕ
deriving DecidableEq, Repr

/-- What an exhausted budget does. -/
inductive ExhaustionBehavior
  | remainStoppedUntilNewIntent
  | remainStoppedUntilConfigurationChange
deriving DecidableEq, Repr

/-- How many automatic attempts an episode may start. -/
structure AutomaticRecoveryAttemptBudget where
  /-- The maximum. -/
  maximumAutomaticRecoveryAttempts : UInt32
  /-- What happens past it. -/
  exhaustionBehavior : ExhaustionBehavior
deriving DecidableEq, Repr

/-- When a delay starts over. -/
inductive DelayResetBehavior
  | newIntent
  | newRecoveryEpisodeAfterStableRun
deriving DecidableEq, Repr

/-- The cooldown of a configuration. -/
inductive CooldownConfiguration
  | disabled
  | required (minimumDelay : Duration) (reset : DelayResetBehavior)
deriving DecidableEq, Repr

/-- How the delay grows. -/
inductive BackoffDelayStrategy
  | fixed (delay : Duration)
  | linear (initialDelay increment : Duration)
  | exponential (initialDelay : Duration) (multiplier : UInt32)
deriving DecidableEq, Repr

/-- Whether a delay is spread. -/
inductive JitterRequirement
  | forbidden
  | required (maximum : Duration)
deriving DecidableEq, Repr

/-- The backoff of a configuration. -/
inductive BackoffConfiguration
  | disabled
  | required (strategy : BackoffDelayStrategy) (maximumDelay : Duration)
      (jitter : JitterRequirement) (reset : DelayResetBehavior)
deriving DecidableEq, Repr

/-- What has to be shown before a guarded failure is recovered from. -/
inductive AdditionalEvidenceRequirement
  | sourceAvailable
  | supportedFormatAvailable
  | resourcePressureCleared
  | changedPrecondition
deriving DecidableEq, Repr

/-- What a class of failures allows. -/
inductive FailureDisposition
  | retryable
  | nonRetryable
  | additionalEvidenceRequired (requirement : AdditionalEvidenceRequirement)
deriving DecidableEq, Repr

/-- The classes of failures. -/
inductive RecoveryFailureClass
  | ownerConstructionFailure
  | deviceUnavailable
  | sourceReconfigured
  | interrupted
  | resourceExhausted
  | unsupportedFormat
  | internalFailure
  | startupFailure
  | workerPanic
deriving DecidableEq, Repr

namespace RecoveryFailureClass

/-- The discriminant of a class. -/
def index : RecoveryFailureClass → Fin 9
  | ownerConstructionFailure => 0
  | deviceUnavailable => 1
  | sourceReconfigured => 2
  | interrupted => 3
  | resourceExhausted => 4
  | unsupportedFormat => 5
  | internalFailure => 6
  | startupFailure => 7
  | workerPanic => 8

/-- `FAILURE_CLASSES` -/
def failureClasses : List RecoveryFailureClass :=
  [ownerConstructionFailure, deviceUnavailable, sourceReconfigured, interrupted, resourceExhausted,
    unsupportedFormat, internalFailure, startupFailure, workerPanic]

end RecoveryFailureClass

/-- The disposition of every class of failures, by its discriminant. -/
structure FailureClassificationPolicy where
  /-- The dispositions. -/
  dispositions : Vector FailureDisposition 9
deriving DecidableEq, Repr

namespace FailureClassificationPolicy

/-- `uniform` -/
def uniform (disposition : FailureDisposition) : FailureClassificationPolicy :=
  ⟨Vector.replicate 9 disposition⟩

/-- `with_classification` -/
def withClassification (policy : FailureClassificationPolicy) (cls : RecoveryFailureClass)
    (disposition : FailureDisposition) : FailureClassificationPolicy :=
  ⟨policy.dispositions.set cls.index disposition cls.index.isLt⟩

/-- `classification` -/
def classification (policy : FailureClassificationPolicy) (cls : RecoveryFailureClass) :
    FailureDisposition :=
  policy.dispositions[cls.index]

/-- `permits_any_automatic_recovery` -/
def permitsAnyAutomaticRecovery (policy : FailureClassificationPolicy) : Bool :=
  policy.dispositions.any (· ≠ .nonRetryable)

/-- A policy that permits no recovery classifies every failure as non-retryable. -/
theorem classification_eq_nonRetryable {policy : FailureClassificationPolicy}
    (h : policy.permitsAnyAutomaticRecovery = false) (cls : RecoveryFailureClass) :
    policy.classification cls = .nonRetryable := by
  unfold permitsAnyAutomaticRecovery at h
  have hall := Vector.any_eq_false.mp h cls.index cls.index.isLt
  simpa [classification] using hall

end FailureClassificationPolicy

/-- What shows that a run is stable. -/
inductive StableRunEvidence
  | supervisorRunningState
  | continuousFrameDelivery
deriving DecidableEq, Repr

/-- When a stable run starts a new episode. -/
inductive StableRunResetPolicy
  | newIntentOnly
  | stableRunRequired (evidence : StableRunEvidence) (minimumDuration : Duration)
deriving DecidableEq, Repr

/-- The fields of a configuration input. -/
inductive RecoveryConfigurationField
  | version
  | attemptBudget
  | cooldown
  | backoff
  | failureClassification
  | stableRunReset
deriving DecidableEq, Repr

/-- The durations of a configuration. -/
inductive RecoveryDurationField
  | cooldownMinimum
  | backoffInitial
  | backoffIncrement
  | backoffMaximum
  | jitterMaximum
deriving DecidableEq, Repr

/-- Why a configuration is rejected. -/
inductive RecoveryConfigurationError
  | missingRequiredField (field : RecoveryConfigurationField)
  | budgetClassificationConflict
  | disabledRecoveryHasActivePolicy
  | recoveryRequiresCooldown
  | recoveryRequiresBackoff
  | zeroDuration (field : RecoveryDurationField)
  | backoffInitialExceedsMaximum
  | backoffIncrementExceedsMaximum
  | exponentialMultiplierTooSmall
  | jitterExceedsMaximumDelay
  | cooldownExceedsMaximumDelay
  | delayResetConflict
  | stableRunResetConflict
  | failureEvidenceConflict (cls : RecoveryFailureClass)
deriving DecidableEq, Repr

/-! ## The checks -/

/-- `validate_nonzero` -/
def validateNonzero (duration : Duration) (field : RecoveryDurationField) :
    Except RecoveryConfigurationError Unit :=
  failIf duration.isZero (.zeroDuration field)

/-- The evidence that may guard a class of failures, for the classes that have to be guarded. -/
def guardedClasses : List (RecoveryFailureClass × List AdditionalEvidenceRequirement) :=
  [(.deviceUnavailable, [.sourceAvailable, .changedPrecondition]),
    (.sourceReconfigured, [.supportedFormatAvailable, .changedPrecondition]),
    (.resourceExhausted, [.resourcePressureCleared, .changedPrecondition]),
    (.unsupportedFormat, [.supportedFormatAvailable, .changedPrecondition])]

/-- Whether the disposition of a guarded class is one of those allowed. -/
def FailureDisposition.allowedBy (allowedEvidence : List AdditionalEvidenceRequirement) :
    FailureDisposition → Bool
  | .nonRetryable => true
  | .additionalEvidenceRequired requirement => requirement ∈ allowedEvidence
  | .retryable => false

/-- `validate_failure_classification` -/
def validateFailureClassification (policy : FailureClassificationPolicy) :
    Except RecoveryConfigurationError Unit :=
  guardedClasses.forM fun (cls, allowedEvidence) =>
    failIf (¬(policy.classification cls).allowedBy allowedEvidence) (.failureEvidenceConflict cls)

/-- The checks of a delay strategy. -/
def BackoffDelayStrategy.validate (maximumDelay : Duration) :
    BackoffDelayStrategy → Except RecoveryConfigurationError Unit
  | .fixed delay => do
    validateNonzero delay .backoffInitial
    failIf (maximumDelay.asNanos < delay.asNanos) .backoffInitialExceedsMaximum
  | .linear initialDelay increment => do
    validateNonzero initialDelay .backoffInitial
    validateNonzero increment .backoffIncrement
    failIf (maximumDelay.asNanos < initialDelay.asNanos) .backoffInitialExceedsMaximum
    failIf (maximumDelay.asNanos < increment.asNanos) .backoffIncrementExceedsMaximum
  | .exponential initialDelay multiplier => do
    validateNonzero initialDelay .backoffInitial
    failIf (maximumDelay.asNanos < initialDelay.asNanos) .backoffInitialExceedsMaximum
    failIf (multiplier < 2) .exponentialMultiplierTooSmall

/-- The checks of a jitter. -/
def JitterRequirement.validate (maximumDelay : Duration) :
    JitterRequirement → Except RecoveryConfigurationError Unit
  | .forbidden => .ok ()
  | .required maximum => do
    validateNonzero maximum .jitterMaximum
    failIf (maximumDelay.asNanos < maximum.asNanos) .jitterExceedsMaximumDelay

/-- `validate_backoff` -/
def validateBackoff (strategy : BackoffDelayStrategy) (maximumDelay : Duration)
    (jitter : JitterRequirement) : Except RecoveryConfigurationError Unit := do
  failIf maximumDelay.isZero (.zeroDuration .backoffMaximum)
  strategy.validate maximumDelay
  jitter.validate maximumDelay

/-- A complete configuration definition. -/
structure RecoveryConfiguration where
  /-- The version. -/
  version : RecoveryConfigurationVersion
  /-- The attempt budget. -/
  attemptBudget : AutomaticRecoveryAttemptBudget
  /-- The cooldown. -/
  cooldown : CooldownConfiguration
  /-- The backoff. -/
  backoff : BackoffConfiguration
  /-- The classification of failures. -/
  failureClassification : FailureClassificationPolicy
  /-- The reset after a stable run. -/
  stableRunReset : StableRunResetPolicy
deriving DecidableEq, Repr

namespace RecoveryConfiguration

/-- The cooldown that enabled recovery requires: its least delay and its reset. -/
def requiredCooldown : CooldownConfiguration →
    Except RecoveryConfigurationError (Duration × DelayResetBehavior)
  | .required minimumDelay reset =>
    if minimumDelay.isZero then .error (.zeroDuration .cooldownMinimum)
    else .ok (minimumDelay, reset)
  | .disabled => .error .recoveryRequiresCooldown

/-- The backoff that enabled recovery requires: its greatest delay and its reset. -/
def requiredBackoff : BackoffConfiguration →
    Except RecoveryConfigurationError (Duration × DelayResetBehavior)
  | .required strategy maximumDelay jitter reset => do
    validateBackoff strategy maximumDelay jitter
    return (maximumDelay, reset)
  | .disabled => .error .recoveryRequiresBackoff

/-- The reset after a stable run has to be the one that the delays start over by. -/
def validateReset : StableRunResetPolicy → DelayResetBehavior →
    Except RecoveryConfigurationError Unit
  | .newIntentOnly, .newIntent => .ok ()
  | .stableRunRequired _ minimumDuration, .newRecoveryEpisodeAfterStableRun =>
    failIf minimumDuration.isZero .stableRunResetConflict
  | .stableRunRequired _ _, .newIntent => .error .stableRunResetConflict
  | .newIntentOnly, .newRecoveryEpisodeAfterStableRun => .error .stableRunResetConflict

/-- Whether the budget permits an automatic attempt. -/
def recoveryEnabled (self : RecoveryConfiguration) : Bool :=
  0 < self.attemptBudget.maximumAutomaticRecoveryAttempts

/-- `validate` -/
def validate (self : RecoveryConfiguration) : Except RecoveryConfigurationError Unit := do
  failIf (self.recoveryEnabled ≠ self.failureClassification.permitsAnyAutomaticRecovery)
    .budgetClassificationConflict
  validateFailureClassification self.failureClassification
  if self.recoveryEnabled then do
    let (minimumDelay, cooldownReset) ← requiredCooldown self.cooldown
    let (maximumDelay, backoffReset) ← requiredBackoff self.backoff
    failIf (maximumDelay.asNanos < minimumDelay.asNanos) .cooldownExceedsMaximumDelay
    failIf (cooldownReset ≠ backoffReset) .delayResetConflict
    validateReset self.stableRunReset cooldownReset
  else
    failIf (self.cooldown ≠ .disabled ∨ self.backoff ≠ .disabled ∨
      self.stableRunReset ≠ .newIntentOnly) .disabledRecoveryHasActivePolicy

variable {configuration : RecoveryConfiguration}

/-- A valid configuration permits an attempt exactly where it permits to recover from a failure. -/
theorem recoveryEnabled_eq (h : configuration.validate = .ok ()) :
    configuration.recoveryEnabled
      = configuration.failureClassification.permitsAnyAutomaticRecovery := by
  unfold validate at h
  obtain ⟨_, hbudget, _⟩ := Result.bind_eq_ok.mp h
  exact not_not.mp (failIf_eq_ok.mp hbudget)

/-- A valid configuration that permits an attempt requires a cooldown. -/
theorem cooldown_required (h : configuration.validate = .ok ())
    (henabled : configuration.recoveryEnabled) :
    ∃ minimumDelay reset, configuration.cooldown = .required minimumDelay reset := by
  unfold validate at h
  rw [if_pos henabled] at h
  obtain ⟨-, -, h⟩ := Result.bind_eq_ok.mp h
  obtain ⟨-, -, h⟩ := Result.bind_eq_ok.mp h
  obtain ⟨⟨minimumDelay, reset⟩, hcooldown, -⟩ := Result.bind_eq_ok.mp h
  unfold requiredCooldown at hcooldown
  split at hcooldown
  · rename_i heq
    exact ⟨_, _, heq⟩
  · cases hcooldown

end RecoveryConfiguration

/-! ## The fingerprint -/

/-- Two FNV-style lanes. -/
structure StableFingerprint where
  /-- The first lane. -/
  first : UInt64
  /-- The second lane. -/
  second : UInt64
deriving DecidableEq, Repr

namespace StableFingerprint

/-- `StableFingerprint::new` -/
def new : StableFingerprint := ⟨0xcbf29ce484222325, 0x84222325cbf29ce4⟩

/-- One byte into both lanes. -/
def writeByte (lanes : StableFingerprint) (byte : UInt8) : StableFingerprint where
  first := (lanes.first ^^^ byte.toUInt64) * 0x00000100000001b3
  second := (lanes.second ^^^ (byte ^^^ 0xa5).toUInt64) * 0x00000100000001e7

/-- `write` -/
def write (lanes : StableFingerprint) (bytes : List UInt8) : StableFingerprint :=
  bytes.foldl writeByte lanes

/-- `write_u8` -/
def writeU8 (lanes : StableFingerprint) (value : UInt8) : StableFingerprint := lanes.write [value]

/-- `write_u16` -/
def writeU16 (lanes : StableFingerprint) (value : UInt16) : StableFingerprint :=
  lanes.write (LittleEndian.encode 2 value.toNat)

/-- `write_u32` -/
def writeU32 (lanes : StableFingerprint) (value : UInt32) : StableFingerprint :=
  lanes.write (LittleEndian.encode 4 value.toNat)

/-- `write_duration` -/
def writeDuration (lanes : StableFingerprint) (value : Duration) : StableFingerprint :=
  (lanes.write (LittleEndian.encode 8 value.secs.toNat)).write
    (LittleEndian.encode 4 value.subsecNanos.toNat)

/-- `finish` -/
def finish (lanes : StableFingerprint) : ℕ := lanes.first.toNat * 2^64 + lanes.second.toNat

/-- `encode_budget` -/
def encodeBudget (lanes : StableFingerprint) (budget : AutomaticRecoveryAttemptBudget) :
    StableFingerprint :=
  (lanes.writeU32 budget.maximumAutomaticRecoveryAttempts).writeU8
    (match budget.exhaustionBehavior with
      | .remainStoppedUntilNewIntent => 0
      | .remainStoppedUntilConfigurationChange => 1)

/-- `encode_delay_reset` -/
def encodeDelayReset : DelayResetBehavior → UInt8
  | .newIntent => 0
  | .newRecoveryEpisodeAfterStableRun => 1

/-- `encode_cooldown` -/
def encodeCooldown (lanes : StableFingerprint) : CooldownConfiguration → StableFingerprint
  | .disabled => lanes.writeU8 0
  | .required minimumDelay reset =>
    ((lanes.writeU8 1).writeDuration minimumDelay).writeU8 (encodeDelayReset reset)

/-- The strategy of a backoff. -/
def encodeStrategy (lanes : StableFingerprint) : BackoffDelayStrategy → StableFingerprint
  | .fixed delay => (lanes.writeU8 0).writeDuration delay
  | .linear initialDelay increment =>
    ((lanes.writeU8 1).writeDuration initialDelay).writeDuration increment
  | .exponential initialDelay multiplier =>
    ((lanes.writeU8 2).writeDuration initialDelay).writeU32 multiplier

/-- The jitter of a backoff. -/
def encodeJitter (lanes : StableFingerprint) : JitterRequirement → StableFingerprint
  | .forbidden => lanes.writeU8 0
  | .required maximum => (lanes.writeU8 1).writeDuration maximum

/-- `encode_backoff` -/
def encodeBackoff (lanes : StableFingerprint) : BackoffConfiguration → StableFingerprint
  | .disabled => lanes.writeU8 0
  | .required strategy maximumDelay jitter reset =>
    ((((lanes.writeU8 1).encodeStrategy strategy).writeDuration maximumDelay).encodeJitter
      jitter).writeU8 (encodeDelayReset reset)

/-- `encode_disposition` -/
def encodeDisposition (lanes : StableFingerprint) : FailureDisposition → StableFingerprint
  | .retryable => lanes.writeU8 0
  | .nonRetryable => lanes.writeU8 1
  | .additionalEvidenceRequired requirement =>
    (lanes.writeU8 2).writeU8
      (match requirement with
        | .sourceAvailable => 0
        | .supportedFormatAvailable => 1
        | .resourcePressureCleared => 2
        | .changedPrecondition => 3)

/-- `encode_stable_run_reset` -/
def encodeStableRunReset (lanes : StableFingerprint) : StableRunResetPolicy → StableFingerprint
  | .newIntentOnly => lanes.writeU8 0
  | .stableRunRequired evidence minimumDuration =>
    ((lanes.writeU8 1).writeU8
      (match evidence with
        | .supervisorRunningState => 0
        | .continuousFrameDelivery => 1)).writeDuration minimumDuration

end StableFingerprint

/-- `RecoveryConfiguration::identity` -/
def RecoveryConfiguration.identity (self : RecoveryConfiguration) :
    RecoveryConfigurationIdentity :=
  let lanes := StableFingerprint.new.writeU16 configurationSchemaVersion
  let lanes := lanes.encodeBudget self.attemptBudget
  let lanes := lanes.encodeCooldown self.cooldown
  let lanes := lanes.encodeBackoff self.backoff
  let lanes := RecoveryFailureClass.failureClasses.foldl
    (fun lanes cls => (lanes.writeU8 (UInt8.ofNat cls.index)).encodeDisposition
      (self.failureClassification.classification cls)) lanes
  let lanes := lanes.encodeStableRunReset self.stableRunReset
  ⟨configurationSchemaVersion, self.version, lanes.finish⟩

/-! ## The snapshot -/

/-- A validated configuration with its identity. -/
structure RecoveryConfigurationSnapshot where
  /-- The identity. -/
  identity : RecoveryConfigurationIdentity
  /-- The configuration. -/
  configuration : RecoveryConfiguration
  valid : configuration.validate = .ok ()
  identity_eq : identity = configuration.identity

namespace RecoveryConfigurationSnapshot

/-- `maximum_automatic_recovery_attempts` -/
def maximumAutomaticRecoveryAttempts (self : RecoveryConfigurationSnapshot) : UInt32 :=
  self.configuration.attemptBudget.maximumAutomaticRecoveryAttempts

/-- `cooldown` -/
def cooldown (self : RecoveryConfigurationSnapshot) : CooldownConfiguration :=
  self.configuration.cooldown

/-- `backoff` -/
def backoff (self : RecoveryConfigurationSnapshot) : BackoffConfiguration :=
  self.configuration.backoff

/-- `failure_disposition` -/
def failureDisposition (self : RecoveryConfigurationSnapshot) (cls : RecoveryFailureClass) :
    FailureDisposition :=
  self.configuration.failureClassification.classification cls

/-- A configuration that permits no attempt recovers from no failure. -/
theorem nonRetryable_of_disabled {self : RecoveryConfigurationSnapshot}
    (h : self.configuration.recoveryEnabled = false) (cls : RecoveryFailureClass) :
    self.failureDisposition cls = .nonRetryable := by
  apply FailureClassificationPolicy.classification_eq_nonRetryable
  rw [← RecoveryConfiguration.recoveryEnabled_eq self.valid]
  exact h

/-- A configuration that permits an attempt requires a cooldown. -/
theorem cooldown_required_of_enabled {self : RecoveryConfigurationSnapshot}
    (h : self.configuration.recoveryEnabled) :
    ∃ minimumDelay reset, self.cooldown = .required minimumDelay reset :=
  RecoveryConfiguration.cooldown_required self.valid h

end RecoveryConfigurationSnapshot

/-- A definition at the validation boundary, any field of which may be missing. -/
structure RecoveryConfigurationInput where
  /-- The version. -/
  version : Option RecoveryConfigurationVersion
  /-- The attempt budget. -/
  attemptBudget : Option AutomaticRecoveryAttemptBudget
  /-- The cooldown. -/
  cooldown : Option CooldownConfiguration
  /-- The backoff. -/
  backoff : Option BackoffConfiguration
  /-- The classification of failures. -/
  failureClassification : Option FailureClassificationPolicy
  /-- The reset after a stable run. -/
  stableRunReset : Option StableRunResetPolicy
deriving DecidableEq, Repr

namespace RecoveryConfigurationInput

/-- `recovery_disabled` -/
def recoveryDisabled (version : RecoveryConfigurationVersion) : RecoveryConfigurationInput where
  version := some version
  attemptBudget := some ⟨0, .remainStoppedUntilNewIntent⟩
  cooldown := some .disabled
  backoff := some .disabled
  failureClassification := some (.uniform .nonRetryable)
  stableRunReset := some .newIntentOnly

/-- The configuration of an input that misses no field. -/
def complete (self : RecoveryConfigurationInput) :
    Except RecoveryConfigurationError RecoveryConfiguration := do
  let version ← okOr (.missingRequiredField .version) self.version
  let attemptBudget ← okOr (.missingRequiredField .attemptBudget) self.attemptBudget
  let cooldown ← okOr (.missingRequiredField .cooldown) self.cooldown
  let backoff ← okOr (.missingRequiredField .backoff) self.backoff
  let failureClassification ← okOr (.missingRequiredField .failureClassification)
    self.failureClassification
  let stableRunReset ← okOr (.missingRequiredField .stableRunReset) self.stableRunReset
  return ⟨version, attemptBudget, cooldown, backoff, failureClassification, stableRunReset⟩

/-- `validate` -/
def validate (self : RecoveryConfigurationInput) :
    Except RecoveryConfigurationError RecoveryConfigurationSnapshot := do
  let configuration ← self.complete
  match h : configuration.validate with
  | .ok () => return ⟨configuration.identity, configuration, h, rfl⟩
  | .error error => .error error

end RecoveryConfigurationInput

end ResonanceSignal
