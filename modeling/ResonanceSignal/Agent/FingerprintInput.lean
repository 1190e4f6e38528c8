import ResonanceSignal.Agent.RecoveryConfig
import ResonanceSignal.Lib.PrefixCode

/-!
# What the fingerprint of a configuration hashes

The bytes that `identity` writes into the fingerprint's lanes (`identity_fingerprint`), as a code of
the configuration. Every part of it is self-delimiting: words and durations have fixed lengths, a
variant begins with its tag, and the dispositions come in the order of their classes. So the bytes
determine everything of the configuration but its version, which the identity holds on its own, and
two contents share a fingerprint only where the lanes collide (`fingerprintInput_decodable`).
-/

namespace ResonanceSignal

/-! ## The bytes of the parts -/

/-- The bytes of `write_u32`. -/
def wordBytes (value : UInt32) : List UInt8 := LittleEndian.encode 4 value.toNat

/-- The bytes of `write_duration`. -/
def durationBytes (value : Duration) : List UInt8 :=
  LittleEndian.encode 8 value.secs.toNat ++ LittleEndian.encode 4 value.subsecNanos.toNat

/-- The tag of what an exhausted budget does. -/
def exhaustionTag : ExhaustionBehavior → UInt8
  | .remainStoppedUntilNewIntent => 0
  | .remainStoppedUntilConfigurationChange => 1

/-- The bytes of `encode_budget`. -/
def budgetBytes (budget : AutomaticRecoveryAttemptBudget) : List UInt8 :=
  wordBytes budget.maximumAutomaticRecoveryAttempts ++ [exhaustionTag budget.exhaustionBehavior]

/-- The byte of `encode_delay_reset`. -/
def delayResetBytes (reset : DelayResetBehavior) : List UInt8 :=
  [StableFingerprint.encodeDelayReset reset]

/-- The bytes of `encode_cooldown`. -/
def cooldownBytes : CooldownConfiguration → List UInt8
  | .disabled => [0]
  | .required minimumDelay reset => 1 :: (durationBytes minimumDelay ++ delayResetBytes reset)

/-- The bytes of a strategy in `encode_backoff`. -/
def strategyBytes : BackoffDelayStrategy → List UInt8
  | .fixed delay => 0 :: durationBytes delay
  | .linear initialDelay increment => 1 :: (durationBytes initialDelay ++ durationBytes increment)
  | .exponential initialDelay multiplier =>
    2 :: (durationBytes initialDelay ++ wordBytes multiplier)

/-- The bytes of the jitter in `encode_backoff`. -/
def jitterBytes : JitterRequirement → List UInt8
  | .forbidden => [0]
  | .required maximum => 1 :: durationBytes maximum

/-- The bytes of `encode_backoff`. -/
def backoffBytes : BackoffConfiguration → List UInt8
  | .disabled => [0]
  | .required strategy maximumDelay jitter reset =>
    1 :: (strategyBytes strategy ++ (durationBytes maximumDelay ++
      (jitterBytes jitter ++ delayResetBytes reset)))

/-- The tag of the evidence that guards a class. -/
def requirementTag : AdditionalEvidenceRequirement → UInt8
  | .sourceAvailable => 0
  | .supportedFormatAvailable => 1
  | .resourcePressureCleared => 2
  | .changedPrecondition => 3

/-- The bytes of `encode_disposition`. -/
def dispositionBytes : FailureDisposition → List UInt8
  | .retryable => [0]
  | .nonRetryable => [1]
  | .additionalEvidenceRequired requirement => [2, requirementTag requirement]

/-- The tag of the evidence of a stable run. -/
def stableRunEvidenceTag : StableRunEvidence → UInt8
  | .supervisorRunningState => 0
  | .continuousFrameDelivery => 1

/-- The bytes of `encode_stable_run_reset`. -/
def stableRunResetBytes : StableRunResetPolicy → List UInt8
  | .newIntentOnly => [0]
  | .stableRunRequired evidence minimumDuration =>
    1 :: stableRunEvidenceTag evidence :: durationBytes minimumDuration

/-- The bytes of the dispositions, in the order of their classes. -/
def classificationBytes (policy : FailureClassificationPolicy) : List UInt8 :=
  RecoveryFailureClass.failureClasses.flatMap fun cls =>
    [UInt8.ofNat cls.index] ++ dispositionBytes (policy.classification cls)

/-- The bytes that `identity` writes. -/
def RecoveryConfiguration.fingerprintInput (self : RecoveryConfiguration) : List UInt8 :=
  LittleEndian.encode 2 configurationSchemaVersion.toNat ++ (budgetBytes self.attemptBudget ++
    (cooldownBytes self.cooldown ++ (backoffBytes self.backoff ++
      (classificationBytes self.failureClassification ++
        stableRunResetBytes self.stableRunReset))))

/-! ## These are the bytes that are written -/

namespace StableFingerprint

variable (lanes : StableFingerprint)

/-- Writing is writing the parts in turn. -/
theorem write_append (bytes bytes' : List UInt8) :
    lanes.write (bytes ++ bytes') = (lanes.write bytes).write bytes' :=
  List.foldl_append

/-- Writing a byte first. -/
theorem write_cons (byte : UInt8) (bytes : List UInt8) :
    lanes.write (byte :: bytes) = (lanes.writeU8 byte).write bytes := rfl

/-- `write_duration` writes its bytes. -/
theorem writeDuration_eq (value : Duration) :
    lanes.writeDuration value = lanes.write (durationBytes value) := by
  rw [durationBytes, write_append, writeDuration]

/-- `encode_budget` writes its bytes. -/
theorem encodeBudget_eq (budget : AutomaticRecoveryAttemptBudget) :
    lanes.encodeBudget budget = lanes.write (budgetBytes budget) := by
  obtain ⟨maximum, behavior⟩ := budget
  rw [budgetBytes, write_append]
  cases behavior <;> rfl

/-- `encode_cooldown` writes its bytes. -/
theorem encodeCooldown_eq (cooldown : CooldownConfiguration) :
    lanes.encodeCooldown cooldown = lanes.write (cooldownBytes cooldown) := by
  cases cooldown with
  | disabled => rfl
  | required minimumDelay reset =>
    rw [cooldownBytes, write_cons, write_append, encodeCooldown, writeDuration_eq]
    rfl

/-- A strategy is written as its bytes. -/
theorem encodeStrategy_eq (strategy : BackoffDelayStrategy) :
    lanes.encodeStrategy strategy = lanes.write (strategyBytes strategy) := by
  cases strategy with
  | fixed delay => rw [strategyBytes, write_cons, encodeStrategy, writeDuration_eq]
  | linear initialDelay increment =>
    rw [strategyBytes, write_cons, write_append, encodeStrategy, writeDuration_eq,
      writeDuration_eq]
  | exponential initialDelay multiplier =>
    rw [strategyBytes, write_cons, write_append, encodeStrategy, writeDuration_eq]
    rfl

/-- The jitter is written as its bytes. -/
theorem encodeJitter_eq (jitter : JitterRequirement) :
    lanes.encodeJitter jitter = lanes.write (jitterBytes jitter) := by
  cases jitter with
  | forbidden => rfl
  | required maximum => rw [jitterBytes, write_cons, encodeJitter, writeDuration_eq]

/-- `encode_backoff` writes its bytes. -/
theorem encodeBackoff_eq (backoff : BackoffConfiguration) :
    lanes.encodeBackoff backoff = lanes.write (backoffBytes backoff) := by
  cases backoff with
  | disabled => rfl
  | required strategy maximumDelay jitter reset =>
    rw [backoffBytes, write_cons, write_append, write_append, write_append, encodeBackoff,
      encodeStrategy_eq, writeDuration_eq, encodeJitter_eq]
    rfl

/-- `encode_disposition` writes its bytes. -/
theorem encodeDisposition_eq (disposition : FailureDisposition) :
    lanes.encodeDisposition disposition = lanes.write (dispositionBytes disposition) := by
  cases disposition with
  | retryable => rfl
  | nonRetryable => rfl
  | additionalEvidenceRequired requirement =>
    rw [dispositionBytes, write_cons]
    cases requirement <;> rfl

/-- `encode_stable_run_reset` writes its bytes. -/
theorem encodeStableRunReset_eq (policy : StableRunResetPolicy) :
    lanes.encodeStableRunReset policy = lanes.write (stableRunResetBytes policy) := by
  cases policy with
  | newIntentOnly => rfl
  | stableRunRequired evidence minimumDuration =>
    rw [stableRunResetBytes, write_cons, write_cons]
    unfold encodeStableRunReset
    dsimp only
    rw [writeDuration_eq]
    cases evidence <;> rfl

/-- The loop over the classes writes the bytes of the dispositions. -/
theorem foldl_disposition (policy : FailureClassificationPolicy)
    (classes : List RecoveryFailureClass) :
    classes.foldl (fun lanes cls => (lanes.writeU8 (UInt8.ofNat cls.index)).encodeDisposition
        (policy.classification cls)) lanes
      = lanes.write (classes.flatMap fun cls =>
          [UInt8.ofNat cls.index] ++ dispositionBytes (policy.classification cls)) := by
  induction classes generalizing lanes with
  | nil => rfl
  | cons cls classes ih =>
    rw [List.foldl_cons, ih, List.flatMap_cons, write_append, write_append, encodeDisposition_eq]
    rfl

end StableFingerprint

/-- The fingerprint of an identity is the hash of these bytes. -/
theorem RecoveryConfiguration.identity_fingerprint (self : RecoveryConfiguration) :
    self.identity.fingerprint = (StableFingerprint.new.write self.fingerprintInput).finish := by
  unfold fingerprintInput identity
  simp only [StableFingerprint.write_append, StableFingerprint.encodeBudget_eq,
    StableFingerprint.encodeCooldown_eq, StableFingerprint.encodeBackoff_eq,
    StableFingerprint.encodeStableRunReset_eq, StableFingerprint.foldl_disposition]
  rfl

/-! ## Every part is read off -/

/-- A little-endian code of a word is self-delimiting. -/
theorem encode_selfDelimiting {α : Type*} (width : ℕ) (toNat : α → ℕ)
    (hlt : ∀ a, toNat a < 256^width) (hinjective : Function.Injective toNat) :
    SelfDelimiting fun a => LittleEndian.encode width (toNat a) := by
  apply SelfDelimiting.of_length (n := width) fun value => LittleEndian.length_encode ..
  intro a b hab
  have hdecode : LittleEndian.decode (LittleEndian.encode width (toNat a))
      = LittleEndian.decode (LittleEndian.encode width (toNat b)) := congrArg _ hab
  rw [LittleEndian.decode_encode (hlt a), LittleEndian.decode_encode (hlt b)] at hdecode
  exact hinjective hdecode

/-- A word is read off. -/
theorem wordBytes_selfDelimiting : SelfDelimiting wordBytes :=
  encode_selfDelimiting 4 UInt32.toNat (fun a => a.toNat_lt) fun _ _ => UInt32.toNat_inj.mp

/-- A duration is read off. -/
theorem durationBytes_selfDelimiting : SelfDelimiting durationBytes := by
  have hsecs : SelfDelimiting fun a : UInt64 => LittleEndian.encode 8 a.toNat :=
    encode_selfDelimiting 8 UInt64.toNat (fun a => a.toNat_lt) fun _ _ => UInt64.toNat_inj.mp
  have hinjective : Function.Injective fun d : Duration => (d.secs, d.subsecNanos) := by
    rintro ⟨secs, nanos, hlt⟩ ⟨secs', nanos', hlt'⟩ h
    obtain ⟨rfl, rfl⟩ := Prod.mk.inj h
    rfl
  exact (hsecs.append wordBytes_selfDelimiting).comp hinjective

/-- What an exhausted budget does is read off. -/
theorem exhaustionTag_injective : Function.Injective exhaustionTag := by
  intro a b h
  cases a <;> cases b <;> first | rfl | cases h

/-- A budget is read off. -/
theorem budgetBytes_selfDelimiting : SelfDelimiting budgetBytes := by
  have hinjective : Function.Injective fun b : AutomaticRecoveryAttemptBudget =>
      (b.maximumAutomaticRecoveryAttempts, b.exhaustionBehavior) := by
    rintro ⟨maximum, behavior⟩ ⟨maximum', behavior'⟩ h
    obtain ⟨rfl, rfl⟩ := Prod.mk.inj h
    rfl
  exact (wordBytes_selfDelimiting.append
    (SelfDelimiting.singleton exhaustionTag_injective)).comp hinjective

/-- A reset of a delay is read off. -/
theorem delayResetBytes_selfDelimiting : SelfDelimiting delayResetBytes := by
  apply SelfDelimiting.singleton
  intro a b h
  cases a <;> cases b <;> first | rfl | cases h

/-- A cooldown is read off. -/
theorem cooldownBytes_selfDelimiting : SelfDelimiting cooldownBytes := by
  have hrequired := durationBytes_selfDelimiting.append delayResetBytes_selfDelimiting
  intro a b rest rest' h
  cases a with
  | disabled =>
    cases b with
    | disabled => exact ⟨rfl, (List.cons.inj h).2⟩
    | required => cases (List.cons.inj h).1
  | required minimumDelay reset =>
    cases b with
    | disabled => cases (List.cons.inj h).1
    | required minimumDelay' reset' =>
      obtain ⟨heq, hrest⟩ := hrequired (minimumDelay, reset) (minimumDelay', reset') _ _
        (List.cons.inj h).2
      cases heq
      exact ⟨rfl, hrest⟩

/-- A strategy is read off. -/
theorem strategyBytes_selfDelimiting : SelfDelimiting strategyBytes := by
  have hlinear := durationBytes_selfDelimiting.append durationBytes_selfDelimiting
  have hexponential := durationBytes_selfDelimiting.append wordBytes_selfDelimiting
  intro a b rest rest' h
  cases a with
  | fixed delay =>
    cases b with
    | fixed delay' =>
      obtain ⟨rfl, hrest⟩ := durationBytes_selfDelimiting delay delay' _ _ (List.cons.inj h).2
      exact ⟨rfl, hrest⟩
    | linear => cases (List.cons.inj h).1
    | exponential => cases (List.cons.inj h).1
  | linear initialDelay increment =>
    cases b with
    | fixed => cases (List.cons.inj h).1
    | linear initialDelay' increment' =>
      obtain ⟨heq, hrest⟩ := hlinear (initialDelay, increment) (initialDelay', increment') _ _
        (List.cons.inj h).2
      cases heq
      exact ⟨rfl, hrest⟩
    | exponential => cases (List.cons.inj h).1
  | exponential initialDelay multiplier =>
    cases b with
    | fixed => cases (List.cons.inj h).1
    | linear => cases (List.cons.inj h).1
    | exponential initialDelay' multiplier' =>
      obtain ⟨heq, hrest⟩ := hexponential (initialDelay, multiplier)
        (initialDelay', multiplier') _ _ (List.cons.inj h).2
      cases heq
      exact ⟨rfl, hrest⟩

/-- A jitter is read off. -/
theorem jitterBytes_selfDelimiting : SelfDelimiting jitterBytes := by
  intro a b rest rest' h
  cases a with
  | forbidden =>
    cases b with
    | forbidden => exact ⟨rfl, (List.cons.inj h).2⟩
    | required => cases (List.cons.inj h).1
  | required maximum =>
    cases b with
    | forbidden => cases (List.cons.inj h).1
    | required maximum' =>
      obtain ⟨rfl, hrest⟩ := durationBytes_selfDelimiting maximum maximum' _ _ (List.cons.inj h).2
      exact ⟨rfl, hrest⟩

/-- A backoff is read off. -/
theorem backoffBytes_selfDelimiting : SelfDelimiting backoffBytes := by
  have hrequired := strategyBytes_selfDelimiting.append (durationBytes_selfDelimiting.append
    (jitterBytes_selfDelimiting.append delayResetBytes_selfDelimiting))
  intro a b rest rest' h
  cases a with
  | disabled =>
    cases b with
    | disabled => exact ⟨rfl, (List.cons.inj h).2⟩
    | required => cases (List.cons.inj h).1
  | required strategy maximumDelay jitter reset =>
    cases b with
    | disabled => cases (List.cons.inj h).1
    | required strategy' maximumDelay' jitter' reset' =>
      obtain ⟨heq, hrest⟩ := hrequired (strategy, maximumDelay, jitter, reset)
        (strategy', maximumDelay', jitter', reset') _ _ (List.cons.inj h).2
      cases heq
      exact ⟨rfl, hrest⟩

/-- The evidence that guards a class is read off. -/
theorem requirementTag_injective : Function.Injective requirementTag := by
  intro a b h
  cases a <;> cases b <;> first | rfl | cases h

/-- A disposition is read off. -/
theorem dispositionBytes_selfDelimiting : SelfDelimiting dispositionBytes := by
  intro a b rest rest' h
  cases a with
  | retryable =>
    cases b with
    | retryable => exact ⟨rfl, (List.cons.inj h).2⟩
    | nonRetryable => cases (List.cons.inj h).1
    | additionalEvidenceRequired => cases (List.cons.inj h).1
  | nonRetryable =>
    cases b with
    | retryable => cases (List.cons.inj h).1
    | nonRetryable => exact ⟨rfl, (List.cons.inj h).2⟩
    | additionalEvidenceRequired => cases (List.cons.inj h).1
  | additionalEvidenceRequired requirement =>
    cases b with
    | retryable => cases (List.cons.inj h).1
    | nonRetryable => cases (List.cons.inj h).1
    | additionalEvidenceRequired requirement' =>
      obtain ⟨htag, hrest⟩ := List.cons.inj (List.cons.inj h).2
      rw [requirementTag_injective htag]
      exact ⟨rfl, hrest⟩

/-- The evidence of a stable run is read off. -/
theorem stableRunEvidenceTag_injective : Function.Injective stableRunEvidenceTag := by
  intro a b h
  cases a <;> cases b <;> first | rfl | cases h

/-- A reset after a stable run is read off. -/
theorem stableRunResetBytes_selfDelimiting : SelfDelimiting stableRunResetBytes := by
  intro a b rest rest' h
  cases a with
  | newIntentOnly =>
    cases b with
    | newIntentOnly => exact ⟨rfl, (List.cons.inj h).2⟩
    | stableRunRequired => cases (List.cons.inj h).1
  | stableRunRequired evidence minimumDuration =>
    cases b with
    | newIntentOnly => cases (List.cons.inj h).1
    | stableRunRequired evidence' minimumDuration' =>
      obtain ⟨htag, hduration⟩ := List.cons.inj (List.cons.inj h).2
      obtain ⟨rfl, hrest⟩ := durationBytes_selfDelimiting minimumDuration minimumDuration' _ _
        hduration
      rw [stableRunEvidenceTag_injective htag]
      exact ⟨rfl, hrest⟩

/-- Policies with the same disposition of every class are the same. -/
theorem FailureClassificationPolicy.ext_of_classification {a b : FailureClassificationPolicy}
    (h : ∀ cls, a.classification cls = b.classification cls) : a = b := by
  obtain ⟨dispositions⟩ := a
  obtain ⟨dispositions'⟩ := b
  congr 1
  apply Vector.ext
  intro i hi
  obtain ⟨cls, hcls⟩ : ∃ cls : RecoveryFailureClass, cls.index = ⟨i, hi⟩ := by
    have hall : ∀ j : Fin 9, ∃ cls ∈ RecoveryFailureClass.failureClasses, cls.index = j := by
      decide
    obtain ⟨cls, -, hcls⟩ := hall ⟨i, hi⟩
    exact ⟨cls, hcls⟩
  have hdisposition := h cls
  simp only [FailureClassificationPolicy.classification, hcls] at hdisposition
  exact hdisposition

/-- The dispositions are read off, each after the tag of its class. -/
theorem classificationBytes_selfDelimiting : SelfDelimiting classificationBytes := by
  intro a b rest rest' h
  obtain ⟨hclasses, hrest⟩ := dispositionBytes_selfDelimiting.flatMap
    (fun cls : RecoveryFailureClass => [UInt8.ofNat cls.index])
    RecoveryFailureClass.failureClasses a.classification b.classification rest rest' h
  refine ⟨FailureClassificationPolicy.ext_of_classification fun cls => hclasses cls ?_, hrest⟩
  cases cls <;> decide

/-! ## The whole -/

/-- What a fingerprint is about: a configuration without its version. -/
structure SameContent (a b : RecoveryConfiguration) : Prop where
  attemptBudget : a.attemptBudget = b.attemptBudget
  cooldown : a.cooldown = b.cooldown
  backoff : a.backoff = b.backoff
  failureClassification : ∀ cls, a.failureClassification.classification cls
    = b.failureClassification.classification cls
  stableRunReset : a.stableRunReset = b.stableRunReset

/-- The parts of a configuration that its fingerprint is about. -/
def RecoveryConfiguration.content (self : RecoveryConfiguration) :
    AutomaticRecoveryAttemptBudget × CooldownConfiguration × BackoffConfiguration ×
      FailureClassificationPolicy × StableRunResetPolicy :=
  (self.attemptBudget, self.cooldown, self.backoff, self.failureClassification,
    self.stableRunReset)

/-- The bytes of these parts. -/
def contentBytes (content : AutomaticRecoveryAttemptBudget × CooldownConfiguration ×
    BackoffConfiguration × FailureClassificationPolicy × StableRunResetPolicy) : List UInt8 :=
  budgetBytes content.1 ++ (cooldownBytes content.2.1 ++ (backoffBytes content.2.2.1 ++
    (classificationBytes content.2.2.2.1 ++ stableRunResetBytes content.2.2.2.2)))

/-- The parts are read off one after the other. -/
theorem contentBytes_selfDelimiting : SelfDelimiting contentBytes :=
  budgetBytes_selfDelimiting.append (cooldownBytes_selfDelimiting.append
    (backoffBytes_selfDelimiting.append (classificationBytes_selfDelimiting.append
      stableRunResetBytes_selfDelimiting)))

/-- What is written is the schema version and the parts. -/
theorem RecoveryConfiguration.fingerprintInput_eq (self : RecoveryConfiguration) :
    self.fingerprintInput = LittleEndian.encode 2 configurationSchemaVersion.toNat
      ++ contentBytes self.content := rfl

/-- Configurations with the same parts have the same content. -/
theorem SameContent.of_content {a b : RecoveryConfiguration} (h : a.content = b.content) :
    SameContent a b := by
  unfold RecoveryConfiguration.content at h
  simp only [Prod.mk.injEq] at h
  obtain ⟨hbudget, hcooldown, hbackoff, hclassification, hreset⟩ := h
  exact ⟨hbudget, hcooldown, hbackoff, fun cls => by rw [hclassification], hreset⟩

/-- The fingerprint is the hash of bytes that determine the content of a configuration. The bytes of
one are no proper prefix of those of another, and two contents have one fingerprint only where their
bytes differ and the hash collides. -/
theorem fingerprintInput_decodable (a b : RecoveryConfiguration) :
    a.identity.fingerprint = (StableFingerprint.new.write a.fingerprintInput).finish ∧
      (a.fingerprintInput = b.fingerprintInput → SameContent a b) ∧
      (a.fingerprintInput <+: b.fingerprintInput → a.fingerprintInput = b.fingerprintInput) ∧
      (a.identity = b.identity → ¬SameContent a b → a.fingerprintInput ≠ b.fingerprintInput ∧
        (StableFingerprint.new.write a.fingerprintInput).finish
          = (StableFingerprint.new.write b.fingerprintInput).finish) := by
  have hcontent : a.fingerprintInput = b.fingerprintInput → SameContent a b := by
    intro h
    rw [a.fingerprintInput_eq, b.fingerprintInput_eq] at h
    exact .of_content (contentBytes_selfDelimiting.injective (List.append_cancel_left h))
  refine ⟨a.identity_fingerprint, hcontent, ?_, ?_⟩
  · intro h
    rw [a.fingerprintInput_eq, b.fingerprintInput_eq, List.prefix_append_right_inj] at h
    rw [a.fingerprintInput_eq, b.fingerprintInput_eq,
      contentBytes_selfDelimiting.eq_of_prefix h]
  · intro hidentity hdifferent
    refine ⟨fun h => hdifferent (hcontent h), ?_⟩
    rw [← a.identity_fingerprint, ← b.identity_fingerprint, hidentity]

/-- A configuration that permits a number of attempts and nothing else. -/
def withAttempts (maximum : UInt32) : RecoveryConfiguration where
  version := .first
  attemptBudget := ⟨maximum, .remainStoppedUntilNewIntent⟩
  cooldown := .disabled
  backoff := .disabled
  failureClassification := .uniform .nonRetryable
  stableRunReset := .newIntentOnly

/-- Two budgets are told apart. -/
theorem fingerprintInput_decodable_withAttempts :
    ¬(withAttempts 0).fingerprintInput <+: (withAttempts 1).fingerprintInput := by
  obtain ⟨-, hcontent, hbegins, -⟩ := fingerprintInput_decodable (withAttempts 0) (withAttempts 1)
  intro h
  exact absurd (hcontent (hbegins h)).attemptBudget (by decide)

end ResonanceSignal
