import Mathlib.Data.Prod.Lex
import ResonanceSignal.Agent.RetryState
import ResonanceSignal.Lib.Transition

/-!
# Runs of the retry state

The operations of `RetryState` as data, and the transition system they make: a step is an operation
with its outcome, and an operation that fails is a step that stays. Each operation that succeeds has
one lemma that says which checks passed and what the next state is; from these follow an invariant
of every run (`Coherent`), that every success moves the revision on (`Advances`), and the few kinds
of changes that a step can make (`Effect`).
-/

namespace ResonanceSignal

namespace RetryState

/-- The operations of the retry state. -/
inductive Operation
  | explicitStart (configurationId : RecoveryConfigurationIdentity)
  | explicitStop (generation : IntentGeneration)
  | commitInitialAttempt (generation : IntentGeneration)
  | commitRecoveryAttempt (authorization : RecoveryAuthorization)
  | recordOwnerCreated (attemptId : AttemptId)
  | recordStreamStarted (attemptId : AttemptId)
  | recordNormalCompletion (attemptId : AttemptId)
  | recordFailure (attemptId : AttemptId) (cause : RetryFailureCause)
  | recordTerminalEventDelivered (attemptId : AttemptId)
  | recordCleanupComplete (attemptId : AttemptId)
  | requireCooldown (evaluated : RetrySnapshot) (marker : CooldownEligibilityMarker)
  | satisfyCooldown (generation : IntentGeneration) (marker : CooldownEligibilityMarker)
      (evidence : CooldownEvidenceId)
  | markExhausted (evaluated : RetrySnapshot) (reason : ExhaustionReason)
  | advanceRecoveryEpisode (generation : IntentGeneration) (evidence : RecoveryEpisodeResetEvidence)
  | snapshot
deriving DecidableEq, Repr

/-- What an operation returns. -/
inductive Output
  | done
  | generation (generation : IntentGeneration)
  | attempt (id : AttemptId)
  | episode (id : RecoveryEpisodeId)
  | snapshot (snapshot : RetrySnapshot)
deriving DecidableEq, Repr

variable {historyCapacity : ℕ}

/-- What an operation returns, and the state it leaves, where it succeeds. -/
def perform (s : RetryState historyCapacity) :
    Operation → Except RetryTransitionError (Output × RetryState historyCapacity)
  | .explicitStart configurationId =>
    (s.explicitStart configurationId).map fun r => (.generation r.1, r.2)
  | .explicitStop generation => (s.explicitStop generation).map (.done, ·)
  | .commitInitialAttempt generation =>
    (s.commitInitialAttempt generation).map fun r => (.attempt r.1, r.2)
  | .commitRecoveryAttempt authorization =>
    (s.commitRecoveryAttempt authorization).map fun r => (.attempt r.1, r.2)
  | .recordOwnerCreated attemptId => (s.recordOwnerCreated attemptId).map (.done, ·)
  | .recordStreamStarted attemptId => (s.recordStreamStarted attemptId).map (.done, ·)
  | .recordNormalCompletion attemptId => (s.recordNormalCompletion attemptId).map (.done, ·)
  | .recordFailure attemptId cause => (s.recordFailure attemptId cause).map (.done, ·)
  | .recordTerminalEventDelivered attemptId =>
    (s.recordTerminalEventDelivered attemptId).map (.done, ·)
  | .recordCleanupComplete attemptId => (s.recordCleanupComplete attemptId).map (.done, ·)
  | .requireCooldown evaluated marker => (s.requireCooldown evaluated marker).map (.done, ·)
  | .satisfyCooldown generation marker evidence =>
    (s.satisfyCooldown generation marker evidence).map (.done, ·)
  | .markExhausted evaluated reason => (s.markExhausted evaluated reason).map (.done, ·)
  | .advanceRecoveryEpisode generation evidence =>
    (s.advanceRecoveryEpisode generation evidence).map fun r => (.episode r.1, r.2)
  | .snapshot => s.snapshot.map fun r => (.snapshot r, s)

/-- An operation that succeeds, with what it returns and the state it leaves. -/
inductive Performs (s : RetryState historyCapacity) :
    Operation → Output → RetryState historyCapacity → Prop
  | explicitStart {s'} (configurationId) (generation) :
      s.explicitStart configurationId = .ok (generation, s') →
      Performs s (.explicitStart configurationId) (.generation generation) s'
  | explicitStop {s'} (generation) : s.explicitStop generation = .ok s' →
      Performs s (.explicitStop generation) .done s'
  | commitInitialAttempt {s'} (generation) (id) :
      s.commitInitialAttempt generation = .ok (id, s') →
      Performs s (.commitInitialAttempt generation) (.attempt id) s'
  | commitRecoveryAttempt {s'} (authorization) (id) :
      s.commitRecoveryAttempt authorization = .ok (id, s') →
      Performs s (.commitRecoveryAttempt authorization) (.attempt id) s'
  | recordOwnerCreated {s'} (attemptId) : s.recordOwnerCreated attemptId = .ok s' →
      Performs s (.recordOwnerCreated attemptId) .done s'
  | recordStreamStarted {s'} (attemptId) : s.recordStreamStarted attemptId = .ok s' →
      Performs s (.recordStreamStarted attemptId) .done s'
  | recordNormalCompletion {s'} (attemptId) : s.recordNormalCompletion attemptId = .ok s' →
      Performs s (.recordNormalCompletion attemptId) .done s'
  | recordFailure {s'} (attemptId) (cause) : s.recordFailure attemptId cause = .ok s' →
      Performs s (.recordFailure attemptId cause) .done s'
  | recordTerminalEventDelivered {s'} (attemptId) :
      s.recordTerminalEventDelivered attemptId = .ok s' →
      Performs s (.recordTerminalEventDelivered attemptId) .done s'
  | recordCleanupComplete {s'} (attemptId) : s.recordCleanupComplete attemptId = .ok s' →
      Performs s (.recordCleanupComplete attemptId) .done s'
  | requireCooldown {s'} (evaluated) (marker) : s.requireCooldown evaluated marker = .ok s' →
      Performs s (.requireCooldown evaluated marker) .done s'
  | satisfyCooldown {s'} (generation) (marker) (evidence) :
      s.satisfyCooldown generation marker evidence = .ok s' →
      Performs s (.satisfyCooldown generation marker evidence) .done s'
  | markExhausted {s'} (evaluated) (reason) : s.markExhausted evaluated reason = .ok s' →
      Performs s (.markExhausted evaluated reason) .done s'
  | advanceRecoveryEpisode {s'} (generation) (evidence) (id) :
      s.advanceRecoveryEpisode generation evidence = .ok (id, s') →
      Performs s (.advanceRecoveryEpisode generation evidence) (.episode id) s'
  | snapshot (snapshot) : s.snapshot = .ok snapshot →
      Performs s .snapshot (.snapshot snapshot) s

/-- Every operation that succeeds does so through its own function. -/
theorem Performs.of_perform {s s' : RetryState historyCapacity} {operation : Operation}
    {output : Output} (h : s.perform operation = .ok (output, s')) :
    Performs s operation output s' := by
  cases operation with
  | explicitStart configurationId =>
    obtain ⟨⟨generation, t⟩, ht, heq⟩ := Result.map_eq_ok.mp h
    cases heq
    exact .explicitStart _ _ ht
  | commitInitialAttempt generation =>
    obtain ⟨⟨id, t⟩, ht, heq⟩ := Result.map_eq_ok.mp h
    cases heq
    exact .commitInitialAttempt _ _ ht
  | commitRecoveryAttempt authorization =>
    obtain ⟨⟨id, t⟩, ht, heq⟩ := Result.map_eq_ok.mp h
    cases heq
    exact .commitRecoveryAttempt _ _ ht
  | advanceRecoveryEpisode generation evidence =>
    obtain ⟨⟨id, t⟩, ht, heq⟩ := Result.map_eq_ok.mp h
    cases heq
    exact .advanceRecoveryEpisode _ _ _ ht
  | snapshot =>
    obtain ⟨r, hr, heq⟩ := Result.map_eq_ok.mp h
    cases heq
    exact .snapshot _ hr
  -- The others return nothing but the state.
  | _ =>
    obtain ⟨t, ht, heq⟩ := Result.map_eq_ok.mp h
    cases heq
    constructor
    exact ht

/-- The outcome of an operation and the state after it. -/
def apply (s : RetryState historyCapacity) (operation : Operation) :
    Except RetryTransitionError Output × RetryState historyCapacity :=
  match s.perform operation with
  | .ok (output, s') => (.ok output, s')
  | .error e => (.error e, s)

/-- An operation with its outcome. -/
abbrev Event := Operation × Except RetryTransitionError Output

/-- The attempt that an event commits. -/
def committedBy : Event → Option AttemptId
  | (_, .ok (.attempt id)) => some id
  | _ => none

/-- The transition system of the operations. -/
def operations (historyCapacity : ℕ) : TransitionSystem (RetryState historyCapacity) Event :=
  .ofFn fun s operation => some (s.apply operation)

/-- A step applies its operation. -/
theorem operations_step {s s' : RetryState historyCapacity} {e : Event} :
    (operations historyCapacity).step s e s' ↔ s.apply e.1 = (e.2, s') := by
  show some (s.apply e.1) = some (e.2, s') ↔ _
  rw [Option.some.injEq]

/-- An operation steps to the state it leaves, with its outcome. -/
theorem step_of_outcome {s : RetryState historyCapacity} {operation : Operation}
    {outcome : Except RetryTransitionError Output} (h : (s.apply operation).1 = outcome) :
    (operations historyCapacity).step s (operation, outcome) (s.apply operation).2 := by
  subst h
  exact operations_step.mpr rfl

/-- A step that succeeds performs its operation. -/
theorem apply_eq_ok {s s' : RetryState historyCapacity} {operation : Operation} {output : Output} :
    s.apply operation = (.ok output, s') ↔ s.perform operation = .ok (output, s') := by
  unfold apply
  cases s.perform operation with
  | ok r => simp [Prod.ext_iff]
  | error e => simp

/-- A step that fails stays. -/
theorem eq_of_apply_error {s s' : RetryState historyCapacity} {operation : Operation}
    {e : RetryTransitionError} (h : s.apply operation = (.error e, s')) : s' = s := by
  unfold apply at h
  split at h
  · cases h
  · cases h
    rfl

/-- The events of a script whose operations may look at the state, and the state after it. -/
def record (s : RetryState historyCapacity) :
    List (RetryState historyCapacity → Operation) → List Event × RetryState historyCapacity
  | [] => ([], s)
  | operation :: script =>
    let r := (s.apply (operation s)).2.record script
    ((operation s, (s.apply (operation s)).1) :: r.1, r.2)

/-- A fresh state with a history of one failure. -/
def freshState : RetryState 1 :=
  ⟨0, none, ⟨0⟩, none, false, .idle, 0, none, none, none, [], .zero, 0, .notRequired⟩

/-- A fresh state is idle, with no intent and nothing recorded. -/
theorem eq_of_new {s : RetryState historyCapacity} (h : RetryState.new historyCapacity = .ok s) :
    s = ⟨0, none, ⟨0⟩, none, false, .idle, 0, none, none, none, [], .zero, 0, .notRequired⟩ := by
  unfold RetryState.new at h
  obtain ⟨_, -, h⟩ := Result.bind_eq_ok.mp h
  exact (Except.ok.inj h).symm

/-- A script runs. -/
theorem run_record (s : RetryState historyCapacity)
    (script : List (RetryState historyCapacity → Operation)) :
    (operations historyCapacity).Run s (s.record script).1 (s.record script).2 := by
  induction script generalizing s with
  | nil => rfl
  | cons operation script ih => exact ⟨_, step_of_outcome rfl, ih _⟩

/-! ## What the checks establish -/

section Checks

variable {s : RetryState historyCapacity}

/-- A counter that is incremented has one more. -/
theorem increment_eq_ok {counter next : UInt64} :
    increment counter = .ok next ↔ next.toNat = counter.toNat + 1 := by
  unfold increment
  rw [okOr_eq_ok, Checked.add_eq_some]
  rfl

/-- The next revision is one more. -/
theorem nextRevision_ok {revision : StateRevision} (h : s.nextRevision = .ok revision) :
    revision.get.toNat = s.stateRevision.get.toNat + 1 := by
  unfold nextRevision at h
  obtain ⟨next, hnext, rfl⟩ := Result.map_eq_ok.mp h
  exact increment_eq_ok.mp hnext

/-- A generation that is required is the current one. -/
theorem requireGeneration_ok {generation : IntentGeneration} {u : Unit}
    (h : s.requireGeneration generation = .ok u) : s.intentGeneration = some generation := by
  unfold requireGeneration at h
  obtain ⟨current, hcurrent, hsame⟩ := Result.bind_eq_ok.mp h
  rw [okOr_eq_ok.mp hcurrent, not_not.mp (failIf_eq_ok.mp hsame)]

/-- An attempt that is required is the current one. -/
theorem requireAttempt_ok {attemptId : AttemptId} {attempt : AttemptState}
    (h : s.requireAttempt attemptId = .ok attempt) :
    s.currentAttempt = some attempt ∧ attempt.id = attemptId := by
  unfold requireAttempt at h
  obtain ⟨current, hcurrent, h⟩ := Result.bind_eq_ok.mp h
  obtain ⟨_, hsame, h⟩ := Result.bind_eq_ok.mp h
  cases h
  exact ⟨okOr_eq_ok.mp hcurrent, not_not.mp (failIf_eq_ok.mp hsame)⟩

/-- A snapshot that is required to be current has the state's generation, revision, configuration,
episode and attempt. -/
theorem requireCurrentSnapshot_ok {evaluated : RetrySnapshot} {u : Unit}
    (h : s.requireCurrentSnapshot evaluated = .ok u) :
    s.intentGeneration = some evaluated.intentGeneration ∧
      evaluated.stateRevision = s.stateRevision ∧
      s.configurationId = some evaluated.configurationId ∧
      evaluated.recoveryEpisode.map RecoveryEpisodeState.id
        = s.recoveryEpisode.map RecoveryEpisodeState.id ∧
      evaluated.currentAttempt.map AttemptState.id = s.currentAttempt.map AttemptState.id := by
  unfold requireCurrentSnapshot at h
  obtain ⟨current, hcurrent, hsame⟩ := Result.bind_eq_ok.mp h
  have hsame := failIf_eq_ok.mp hsame
  push Not at hsame
  obtain ⟨hgeneration, hrevision, hconfiguration, hepisode, hattempt⟩ := hsame
  refine ⟨?_, hrevision, hconfiguration.symm, hepisode, hattempt⟩
  rw [okOr_eq_ok.mp hcurrent, hgeneration]

/-- An authorization that is required to be current has the state's generation, revision,
configuration, episode and attempt. -/
theorem requireCurrentAuthorization_ok {authorization : RecoveryAuthorization} {u : Unit}
    (h : s.requireCurrentAuthorization authorization = .ok u) :
    s.intentGeneration = some authorization.intentGeneration ∧
      authorization.stateRevision = s.stateRevision ∧
      s.configurationId = some authorization.configurationId ∧
      authorization.recoveryEpisode = s.recoveryEpisode.map RecoveryEpisodeState.id ∧
      authorization.priorAttemptId = s.currentAttempt.map AttemptState.id := by
  unfold requireCurrentAuthorization at h
  obtain ⟨current, hcurrent, hsame⟩ := Result.bind_eq_ok.mp h
  have hsame := failIf_eq_ok.mp hsame
  push Not at hsame
  obtain ⟨hgeneration, hrevision, hconfiguration, hepisode, hattempt⟩ := hsame
  refine ⟨?_, hrevision, hconfiguration.symm, hepisode, hattempt⟩
  rw [okOr_eq_ok.mp hcurrent, hgeneration]

/-- A snapshot has the state's data. -/
theorem snapshot_ok {snapshot : RetrySnapshot} (h : s.snapshot = .ok snapshot) :
    s.intentGeneration = some snapshot.intentGeneration ∧
      snapshot.stateRevision = s.stateRevision ∧
      s.configurationId = some snapshot.configurationId ∧
      snapshot.phase = s.phase ∧
      snapshot.currentAttempt = s.currentAttempt ∧
      snapshot.recoveryEpisode = s.recoveryEpisode ∧
      snapshot.lastFailure = s.lastFailure ∧
      snapshot.cooldown = s.cooldown ∧
      snapshot.desiredRunning = s.desiredRunning := by
  unfold RetryState.snapshot at h
  obtain ⟨generation, hgeneration, h⟩ := Result.bind_eq_ok.mp h
  obtain ⟨configurationId, hconfiguration, h⟩ := Result.bind_eq_ok.mp h
  cases h
  exact ⟨okOr_eq_ok.mp hgeneration, rfl, okOr_eq_ok.mp hconfiguration, rfl, rfl, rfl, rfl, rfl, rfl⟩

end Checks

/-! ## What each operation does -/

section Operations

variable {s s' : RetryState historyCapacity}

/-- The revision of a state is the next one. -/
def NextRevision (s s' : RetryState historyCapacity) : Prop :=
  s'.stateRevision.get.toNat = s.stateRevision.get.toNat + 1

/-- The refresh keeps everything but the phase and how far the attempt is. -/
theorem refreshPostFailurePhase_eq (s : RetryState historyCapacity) :
    s.refreshPostFailurePhase = s ∨
      ∃ a, s.currentAttempt = some a ∧ a.readyForEvaluation ∧
        s.refreshPostFailurePhase = { s with
          phase := .waiting
          currentAttempt := some { a with lifecycle := .cleanupComplete } } := by
  unfold refreshPostFailurePhase
  split_ifs
  · exact .inl rfl
  · cases ha : s.currentAttempt with
    | none => exact .inl rfl
    | some a =>
      dsimp only
      split_ifs with hready
      · exact .inr ⟨a, rfl, hready, rfl⟩
      · exact .inl rfl

/-- A start begins a fresh generation. -/
theorem explicitStart_ok {configurationId : RecoveryConfigurationIdentity}
    {generation : IntentGeneration} (h : s.explicitStart configurationId = .ok (generation, s')) :
    generation.get.toNat = s.lastIntentGeneration.toNat + 1 ∧
      s'.lastIntentGeneration = generation.get ∧ s'.intentGeneration = some generation ∧
      s'.phase = .idle ∧ s'.currentAttempt = none ∧ s'.recoveryEpisode = none ∧
      s'.cooldown = .notRequired := by
  unfold explicitStart at h
  obtain ⟨_, -, h⟩ := Result.bind_eq_ok.mp h
  obtain ⟨_, -, h⟩ := Result.bind_eq_ok.mp h
  obtain ⟨next, hnext, h⟩ := Result.bind_eq_ok.mp h
  cases h
  exact ⟨increment_eq_ok.mp hnext, rfl, rfl, rfl, rfl, rfl, rfl⟩

/-- A stop of the current generation ends recovery. -/
theorem explicitStop_ok {generation : IntentGeneration} (h : s.explicitStop generation = .ok s') :
    NextRevision s s' ∧ ∃ revision, s' = { s with
      desiredRunning := false
      phase := .stopped
      cooldown := s.cooldown.invalidate
      stateRevision := revision } := by
  unfold explicitStop at h
  obtain ⟨_, -, h⟩ := Result.bind_eq_ok.mp h
  obtain ⟨revision, hrevision, h⟩ := Result.bind_eq_ok.mp h
  cases h
  exact ⟨nextRevision_ok hrevision, revision, rfl⟩

/-- A committed attempt is the current one, with no facts recorded yet. -/
theorem commitAttempt_ok {kind : AttemptKind} {id : AttemptId}
    (h : s.commitAttempt kind = .ok (id, s')) :
    NextRevision s s' ∧ s.intentGeneration = some id.intentGeneration ∧
      ∃ episode attemptsStarted revision, s.episodeAfter kind = .ok episode ∧ s' = { s with
        recoveryEpisode := episode
        attemptsStarted := attemptsStarted
        currentAttempt := some ⟨id, kind, .committed, false, false, false, none⟩
        phase := .attempting
        cooldown := .notRequired
        stateRevision := revision } := by
  unfold commitAttempt at h
  obtain ⟨generation, hgeneration, h⟩ := Result.bind_eq_ok.mp h
  obtain ⟨attemptsStarted, -, h⟩ := Result.bind_eq_ok.mp h
  obtain ⟨episode, hepisode, h⟩ := Result.bind_eq_ok.mp h
  obtain ⟨revision, hrevision, h⟩ := Result.bind_eq_ok.mp h
  cases h
  exact ⟨nextRevision_ok hrevision, okOr_eq_ok.mp hgeneration, _, _, _, hepisode, rfl⟩

/-- The initial attempt is committed in an idle phase. -/
theorem commitInitialAttempt_ok {generation : IntentGeneration} {id : AttemptId}
    (h : s.commitInitialAttempt generation = .ok (id, s')) :
    s.phase = .idle ∧ s.commitAttempt .explicitStart = .ok (id, s') := by
  unfold commitInitialAttempt at h
  obtain ⟨_, -, h⟩ := Result.bind_eq_ok.mp h
  obtain ⟨_, hphase, h⟩ := Result.bind_eq_ok.mp h
  have hphase := failIf_eq_ok.mp hphase
  simp only [Bool.or_eq_true, decide_eq_true_eq, not_or, ne_eq, not_not] at hphase
  exact ⟨hphase.2, h⟩

/-- An automatic attempt is committed under a current authorization, in the waiting phase of an
episode that is not exhausted, after an attempt that released its resources and delivered its
terminal event, where the cooldown permits it. -/
theorem commitRecoveryAttempt_ok {authorization : RecoveryAuthorization} {id : AttemptId}
    (h : s.commitRecoveryAttempt authorization = .ok (id, s')) :
    s.requireCurrentAuthorization authorization = .ok () ∧ s.phase = .waiting ∧
      (∃ a, s.currentAttempt = some a ∧ a.resourcesReleased ∧
        (a.streamStarted → a.terminalEventDelivered)) ∧
      s.cooldown.permitsProgression ∧ s.commitAttempt .automaticRecovery = .ok (id, s') := by
  unfold commitRecoveryAttempt at h
  obtain ⟨_, hcurrent, h⟩ := Result.bind_eq_ok.mp h
  obtain ⟨_, -, h⟩ := Result.bind_eq_ok.mp h
  obtain ⟨attempt, hattempt, h⟩ := Result.bind_eq_ok.mp h
  obtain ⟨_, hreleased, h⟩ := Result.bind_eq_ok.mp h
  obtain ⟨_, hterminal, h⟩ := Result.bind_eq_ok.mp h
  obtain ⟨_, hphase, h⟩ := Result.bind_eq_ok.mp h
  obtain ⟨episode, -, h⟩ := Result.bind_eq_ok.mp h
  obtain ⟨_, -, h⟩ := Result.bind_eq_ok.mp h
  obtain ⟨_, hcooldown, h⟩ := Result.bind_eq_ok.mp h
  have hphase := failIf_eq_ok.mp hphase
  simp only [Bool.or_eq_true, decide_eq_true_eq, not_or, ne_eq, not_not] at hphase
  refine ⟨hcurrent, hphase.2, ⟨attempt, okOr_eq_ok.mp hattempt, ?_, ?_⟩, ?_, h⟩
  · simpa using failIf_eq_ok.mp hreleased
  · simpa using failIf_eq_ok.mp hterminal
  · simpa using failIf_eq_ok.mp hcooldown

/-- The owner of a committed attempt is created. -/
theorem recordOwnerCreated_ok {attemptId : AttemptId} (h : s.recordOwnerCreated attemptId = .ok s') :
    NextRevision s s' ∧ ∃ a revision, s.currentAttempt = some a ∧ a.id = attemptId ∧
      a.lifecycle = .committed ∧ s' = { s with
        currentAttempt := some { a with lifecycle := .ownerCreated }
        stateRevision := revision } := by
  unfold recordOwnerCreated at h
  obtain ⟨revision, hrevision, h⟩ := Result.bind_eq_ok.mp h
  obtain ⟨a, ha, h⟩ := Result.bind_eq_ok.mp h
  obtain ⟨_, hlifecycle, h⟩ := Result.bind_eq_ok.mp h
  obtain ⟨hcurrent, hid⟩ := requireAttempt_ok ha
  cases h
  exact ⟨nextRevision_ok hrevision, a, revision, hcurrent, hid,
    not_not.mp (failIf_eq_ok.mp hlifecycle), rfl⟩

/-- The stream of an attempt whose owner was created starts. -/
theorem recordStreamStarted_ok {attemptId : AttemptId}
    (h : s.recordStreamStarted attemptId = .ok s') :
    NextRevision s s' ∧ ∃ a revision, s.currentAttempt = some a ∧ a.id = attemptId ∧
      a.lifecycle = .ownerCreated ∧ s' = { s with
        currentAttempt := some { a with lifecycle := .running, streamStarted := true }
        phase := if s.desiredRunning then .running else s.phase
        stateRevision := revision } := by
  unfold recordStreamStarted at h
  obtain ⟨revision, hrevision, h⟩ := Result.bind_eq_ok.mp h
  obtain ⟨a, ha, h⟩ := Result.bind_eq_ok.mp h
  obtain ⟨_, hlifecycle, h⟩ := Result.bind_eq_ok.mp h
  obtain ⟨hcurrent, hid⟩ := requireAttempt_ok ha
  cases h
  exact ⟨nextRevision_ok hrevision, a, revision, hcurrent, hid,
    not_not.mp (failIf_eq_ok.mp hlifecycle), rfl⟩

/-- An attempt that did not fail completes. -/
theorem recordNormalCompletion_ok {attemptId : AttemptId}
    (h : s.recordNormalCompletion attemptId = .ok s') :
    NextRevision s s' ∧ ∃ a revision, s.currentAttempt = some a ∧ a.id = attemptId ∧
      a.failure = none ∧ (a.lifecycle = .ownerCreated ∨ a.lifecycle = .running) ∧ s' = { s with
        currentAttempt := some { a with lifecycle := .completed }
        stateRevision := revision } := by
  unfold recordNormalCompletion at h
  obtain ⟨revision, hrevision, h⟩ := Result.bind_eq_ok.mp h
  obtain ⟨a, ha, h⟩ := Result.bind_eq_ok.mp h
  obtain ⟨_, hchecks, h⟩ := Result.bind_eq_ok.mp h
  obtain ⟨hcurrent, hid⟩ := requireAttempt_ok ha
  have hchecks := failIf_eq_ok.mp hchecks
  rw [not_or, not_not] at hchecks
  cases h
  exact ⟨nextRevision_ok hrevision, a, revision, hcurrent, hid, by simpa using hchecks.1,
    hchecks.2, rfl⟩

/-- The failure of an attempt that neither failed nor completed is recorded, in the current episode
or in the generation's first. -/
theorem recordFailure_ok {attemptId : AttemptId} {cause : RetryFailureCause}
    (h : s.recordFailure attemptId cause = .ok s') :
    ∃ a episode totals consecutive revision, s.currentAttempt = some a ∧ a.id = attemptId ∧
      a.failure = none ∧ (a.lifecycle = .committed ∨ a.lifecycle = .ownerCreated ∨
        a.lifecycle = .running) ∧ s.failureEpisode = .ok episode ∧
      (s.failureTotals.checkedWithRecord cause = .ok totals ∧
        increment s.consecutiveFailedAttempts = .ok consecutive) ∧
      revision.get.toNat = s.stateRevision.get.toNat + 1 ∧
      s' = refreshPostFailurePhase { s with
        recoveryEpisode := some episode
        failureTotals := totals
        consecutiveFailedAttempts := consecutive
        recentFailures := s.pushFailure ⟨attemptId, episode.id, cause, a.streamStarted⟩
        lastFailure := some ⟨attemptId, episode.id, cause, a.streamStarted⟩
        currentAttempt := some { a with failure := some cause, lifecycle := .failed }
        phase := if s.desiredRunning then .failed else s.phase
        stateRevision := revision } := by
  unfold recordFailure at h
  obtain ⟨a, ha, h⟩ := Result.bind_eq_ok.mp h
  obtain ⟨_, hfailure, h⟩ := Result.bind_eq_ok.mp h
  obtain ⟨_, hlifecycle, h⟩ := Result.bind_eq_ok.mp h
  obtain ⟨episode, hepisode, h⟩ := Result.bind_eq_ok.mp h
  obtain ⟨totals, htotals, h⟩ := Result.bind_eq_ok.mp h
  obtain ⟨consecutive, hconsecutive, h⟩ := Result.bind_eq_ok.mp h
  obtain ⟨revision, hrevision, h⟩ := Result.bind_eq_ok.mp h
  obtain ⟨hcurrent, hid⟩ := requireAttempt_ok ha
  cases h
  refine ⟨a, episode, totals, consecutive, revision, hcurrent, hid, ?_,
    not_not.mp (failIf_eq_ok.mp hlifecycle), hepisode, ⟨htotals, hconsecutive⟩,
    nextRevision_ok hrevision, rfl⟩
  simpa using failIf_eq_ok.mp hfailure

/-- The terminal event of a started stream is delivered. -/
theorem recordTerminalEventDelivered_ok {attemptId : AttemptId}
    (h : s.recordTerminalEventDelivered attemptId = .ok s') :
    ∃ a revision, s.currentAttempt = some a ∧ a.id = attemptId ∧ a.streamStarted ∧
      (a.lifecycle = .running ∨ a.lifecycle = .failed ∨ a.lifecycle = .completed) ∧
      revision.get.toNat = s.stateRevision.get.toNat + 1 ∧
      s' = refreshPostFailurePhase { s with
        currentAttempt := some { a with terminalEventDelivered := true }
        stateRevision := revision } := by
  unfold recordTerminalEventDelivered at h
  obtain ⟨revision, hrevision, h⟩ := Result.bind_eq_ok.mp h
  obtain ⟨a, ha, h⟩ := Result.bind_eq_ok.mp h
  obtain ⟨_, hchecks, h⟩ := Result.bind_eq_ok.mp h
  obtain ⟨hcurrent, hid⟩ := requireAttempt_ok ha
  have hchecks := failIf_eq_ok.mp hchecks
  rw [not_or, not_not] at hchecks
  cases h
  exact ⟨a, revision, hcurrent, hid, by simpa using hchecks.1, hchecks.2,
    nextRevision_ok hrevision, rfl⟩

/-- The resources of an attempt are released. -/
theorem recordCleanupComplete_ok {attemptId : AttemptId}
    (h : s.recordCleanupComplete attemptId = .ok s') :
    ∃ a revision, s.currentAttempt = some a ∧ a.id = attemptId ∧
      revision.get.toNat = s.stateRevision.get.toNat + 1 ∧
      s' = refreshPostFailurePhase { s with
        currentAttempt := some (releasedAttempt a s.desiredRunning)
        stateRevision := revision } := by
  unfold recordCleanupComplete at h
  obtain ⟨revision, hrevision, h⟩ := Result.bind_eq_ok.mp h
  obtain ⟨a, ha, h⟩ := Result.bind_eq_ok.mp h
  obtain ⟨hcurrent, hid⟩ := requireAttempt_ok ha
  cases h
  exact ⟨a, revision, hcurrent, hid, nextRevision_ok hrevision, rfl⟩

/-- A cooldown is required in the waiting phase, for the current attempt. -/
theorem requireCooldown_ok {evaluated : RetrySnapshot} {marker : CooldownEligibilityMarker}
    (h : s.requireCooldown evaluated marker = .ok s') :
    NextRevision s s' ∧ s.requireCurrentSnapshot evaluated = .ok () ∧
      ∃ a revision, s.currentAttempt = some a ∧ s' = { s with
        cooldown := .pending ⟨a.id, marker⟩
        stateRevision := revision } := by
  unfold requireCooldown at h
  obtain ⟨_, hcurrent, h⟩ := Result.bind_eq_ok.mp h
  obtain ⟨_, -, h⟩ := Result.bind_eq_ok.mp h
  obtain ⟨revision, hrevision, h⟩ := Result.bind_eq_ok.mp h
  obtain ⟨a, ha, h⟩ := Result.bind_eq_ok.mp h
  cases h
  exact ⟨nextRevision_ok hrevision, hcurrent, a, revision, okOr_eq_ok.mp ha, rfl⟩

/-- A pending cooldown is satisfied by evidence for its marker. -/
theorem satisfyCooldown_ok {generation : IntentGeneration} {marker : CooldownEligibilityMarker}
    {evidence : CooldownEvidenceId} (h : s.satisfyCooldown generation marker evidence = .ok s') :
    NextRevision s s' ∧ s.intentGeneration = some generation ∧
      ∃ requirement revision, s.cooldown = .pending requirement ∧ requirement.marker = marker ∧
        s' = { s with
          cooldown := .satisfied requirement evidence
          stateRevision := revision } := by
  unfold satisfyCooldown at h
  obtain ⟨_, hgeneration, h⟩ := Result.bind_eq_ok.mp h
  split at h
  · rename_i requirement hpending
    obtain ⟨_, hmarker, h⟩ := Result.bind_eq_ok.mp h
    obtain ⟨revision, hrevision, h⟩ := Result.bind_eq_ok.mp h
    cases h
    exact ⟨nextRevision_ok hrevision, requireGeneration_ok hgeneration, requirement, revision,
      hpending, not_not.mp (failIf_eq_ok.mp hmarker), rfl⟩
  · cases h

/-- The current episode is exhausted in the waiting phase. -/
theorem markExhausted_ok {evaluated : RetrySnapshot} {reason : ExhaustionReason}
    (h : s.markExhausted evaluated reason = .ok s') :
    NextRevision s s' ∧ s.phase = .waiting ∧
      ∃ episode exhaustion revision, s.recoveryEpisode = some episode ∧ s' = { s with
        recoveryEpisode := some { episode with exhaustion := some exhaustion }
        phase := .exhausted
        stateRevision := revision } := by
  unfold markExhausted at h
  obtain ⟨_, -, h⟩ := Result.bind_eq_ok.mp h
  obtain ⟨_, -, h⟩ := Result.bind_eq_ok.mp h
  obtain ⟨_, hphase, h⟩ := Result.bind_eq_ok.mp h
  obtain ⟨revision, hrevision, h⟩ := Result.bind_eq_ok.mp h
  obtain ⟨attempt, -, h⟩ := Result.bind_eq_ok.mp h
  obtain ⟨configurationId, -, h⟩ := Result.bind_eq_ok.mp h
  obtain ⟨episode, hepisode, h⟩ := Result.bind_eq_ok.mp h
  cases h
  exact ⟨nextRevision_ok hrevision, not_not.mp (failIf_eq_ok.mp hphase), episode, _, revision,
    okOr_eq_ok.mp hepisode, rfl⟩

/-- The next episode of the generation begins with a fresh counter and no cooldown. -/
theorem advanceRecoveryEpisode_ok {generation : IntentGeneration}
    {evidence : RecoveryEpisodeResetEvidence} {id : RecoveryEpisodeId}
    (h : s.advanceRecoveryEpisode generation evidence = .ok (id, s')) :
    NextRevision s s' ∧ s.intentGeneration = some generation ∧ id.intentGeneration = generation ∧
      (∃ previous, s.recoveryEpisode = some previous ∧
        id.ordinal.get.toNat = previous.id.ordinal.get.toNat + 1) ∧
      ∃ revision, s' = { s with
        recoveryEpisode := some ⟨id, 0, none⟩
        consecutiveFailedAttempts := 0
        cooldown := .notRequired
        phase := if s.phase = .exhausted then .waiting else s.phase
        stateRevision := revision } := by
  unfold advanceRecoveryEpisode at h
  obtain ⟨_, hgeneration, h⟩ := Result.bind_eq_ok.mp h
  obtain ⟨_, -, h⟩ := Result.bind_eq_ok.mp h
  obtain ⟨_, -, h⟩ := Result.bind_eq_ok.mp h
  obtain ⟨previous, hprevious, h⟩ := Result.bind_eq_ok.mp h
  obtain ⟨ordinal, hordinal, h⟩ := Result.bind_eq_ok.mp h
  obtain ⟨revision, hrevision, h⟩ := Result.bind_eq_ok.mp h
  cases h
  exact ⟨nextRevision_ok hrevision, requireGeneration_ok hgeneration, rfl,
    ⟨previous, okOr_eq_ok.mp hprevious, increment_eq_ok.mp hordinal⟩, revision, rfl⟩

end Operations

/-! ## What every run keeps -/

section Runs

variable {s s' : RetryState historyCapacity}

/-- The invariant of every run. -/
structure Coherent (s : RetryState historyCapacity) : Prop where
  /-- The current generation is the last one. -/
  generation : ∀ g, s.intentGeneration = some g → g.get = s.lastIntentGeneration
  /-- The current attempt is of the current generation. -/
  attempt : ∀ a, s.currentAttempt = some a → s.intentGeneration = some a.id.intentGeneration
  /-- The current episode is of the current generation. -/
  episode : ∀ e, s.recoveryEpisode = some e → s.intentGeneration = some e.id.intentGeneration
  /-- In the waiting and the exhausted phase the current attempt is ready for evaluation. -/
  settled : s.phase = .waiting ∨ s.phase = .exhausted → ∃ a, s.currentAttempt = some a ∧
    a.readyForEvaluation ∧ a.lifecycle = .cleanupComplete
  /-- The failure of the current attempt was recorded. -/
  failed : ∀ a, s.currentAttempt = some a → a.failure.isSome → s.lastFailure.isSome

/-- A fresh state is coherent. -/
theorem Coherent.new (h : RetryState.new historyCapacity = .ok s) : s.Coherent := by
  obtain rfl := eq_of_new h
  constructor
  case generation => intro g hg; cases hg
  case attempt => intro a ha; cases ha
  case episode => intro episode hepisode; cases hepisode
  case settled => simp
  case failed => intro a ha; cases ha

/-- An attempt that is not cleaned up is not in the waiting or the exhausted phase. -/
theorem Coherent.unsettled (h : s.Coherent) {a : AttemptState} (ha : s.currentAttempt = some a)
    (hlifecycle : a.lifecycle ≠ .cleanupComplete) : ¬(s.phase = .waiting ∨ s.phase = .exhausted) := by
  intro hphase
  obtain ⟨b, hb, -, hclean⟩ := h.settled hphase
  rw [ha, Option.some.injEq] at hb
  exact hlifecycle (hb ▸ hclean)

/-- The refresh keeps the invariant. -/
theorem Coherent.refresh (h : s.Coherent) : s.refreshPostFailurePhase.Coherent := by
  rcases s.refreshPostFailurePhase_eq with heq | ⟨a, ha, hready, heq⟩
  · rw [heq]
    exact h
  · rw [heq]
    refine ⟨h.generation, ?_, h.episode, fun _ => ⟨_, rfl, hready, rfl⟩, ?_⟩
    · rintro _ ⟨⟩
      exact h.attempt a ha
    · rintro _ ⟨⟩ hfailure
      exact h.failed a ha hfailure

/-- A committed attempt keeps the invariant. -/
theorem Coherent.commitAttempt (h : s.Coherent) {kind : AttemptKind} {id : AttemptId}
    (hop : s.commitAttempt kind = .ok (id, s')) : s'.Coherent := by
  obtain ⟨-, hgeneration, episode, attemptsStarted, revision, hepisode, rfl⟩ := commitAttempt_ok hop
  refine ⟨h.generation, ?_, ?_, by simp, ?_⟩
  · rintro _ ⟨⟩
    exact hgeneration
  · rintro e rfl
    cases kind with
    | explicitStart => exact h.episode e (Except.ok.inj hepisode)
    | automaticRecovery =>
      unfold episodeAfter at hepisode
      obtain ⟨previous, hprevious, hepisode⟩ := Result.bind_eq_ok.mp hepisode
      obtain ⟨started, -, hepisode⟩ := Result.bind_eq_ok.mp hepisode
      cases hepisode
      exact h.episode previous (okOr_eq_ok.mp hprevious)
  · rintro _ ⟨⟩ hfailure
    simp at hfailure

/-- A fact about the current attempt, recorded where the phase is not settled, keeps the invariant.
-/
theorem Coherent.record (h : s.Coherent) {a b : AttemptState} {phase : RetryPhase}
    {revision : StateRevision} (ha : s.currentAttempt = some a) (hid : b.id = a.id)
    (hfailure : b.failure = a.failure) (hphase : ¬(phase = .waiting ∨ phase = .exhausted)) :
    Coherent ({ s with currentAttempt := some b, phase := phase, stateRevision := revision } :
      RetryState historyCapacity) := by
  refine ⟨h.generation, ?_, h.episode, fun hp => absurd hp hphase, ?_⟩
  · rintro _ ⟨⟩
    rw [hid]
    exact h.attempt a ha
  · rintro _ ⟨⟩ hfailed
    rw [hfailure] at hfailed
    exact h.failed a ha hfailed

/-- A recorded failure keeps the invariant. -/
theorem Coherent.recordFailure (h : s.Coherent) {attemptId : AttemptId} {cause : RetryFailureCause}
    (hop : s.recordFailure attemptId cause = .ok s') : s'.Coherent := by
  obtain ⟨a, episode, totals, consecutive, revision, ha, -, -, hlifecycle, hepisode, -, -, rfl⟩ :=
    recordFailure_ok hop
  have hunsettled := h.unsettled ha (by rintro hc; simp [hc] at hlifecycle)
  apply Coherent.refresh
  refine ⟨h.generation, ?_, ?_, fun hp => absurd hp ?_, by simp⟩
  · rintro _ ⟨⟩
    exact h.attempt a ha
  · rintro _ ⟨⟩
    unfold failureEpisode at hepisode
    split at hepisode
    · rename_i e he
      cases hepisode
      exact h.episode _ he
    · obtain ⟨generation, hgeneration, hepisode⟩ := Result.bind_eq_ok.mp hepisode
      cases hepisode
      exact okOr_eq_ok.mp hgeneration
  · dsimp only
    split_ifs
    · simp
    · exact hunsettled

/-- Released resources keep the invariant: an attempt that is ready for evaluation stays so. -/
theorem Coherent.recordCleanupComplete (h : s.Coherent) {attemptId : AttemptId}
    (hop : s.recordCleanupComplete attemptId = .ok s') : s'.Coherent := by
  obtain ⟨a, revision, ha, -, -, rfl⟩ := recordCleanupComplete_ok hop
  apply Coherent.refresh
  refine ⟨h.generation, ?_, h.episode, fun hp => ⟨_, rfl, ?_⟩, ?_⟩
  · rintro _ ⟨⟩
    exact h.attempt a ha
  · obtain ⟨b, hb, hready, hclean⟩ := h.settled hp
    rw [ha, Option.some.injEq] at hb
    subst hb
    simp only [AttemptState.readyForEvaluation, Bool.and_eq_true, Bool.or_eq_true,
      Bool.not_eq_true'] at hready
    simp [releasedAttempt, AttemptState.readyForEvaluation, hready.1.1, hready.2]
  · rintro _ ⟨⟩ hfailed
    exact h.failed a ha hfailed

/-- Every operation keeps the invariant. -/
theorem Coherent.perform (h : s.Coherent) {operation : Operation} {output : Output}
    (hop : s.perform operation = .ok (output, s')) : s'.Coherent := by
  cases Performs.of_perform hop with
  | explicitStart configurationId generation ht =>
    obtain ⟨-, hlast, hgeneration, hphase, hattempt, hepisode, -⟩ := explicitStart_ok ht
    refine ⟨?_, by simp [hattempt], by simp [hepisode], by simp [hphase], by simp [hattempt]⟩
    intro g hg
    rw [hgeneration, Option.some.injEq] at hg
    rw [hlast, hg]
  | explicitStop generation ht =>
    obtain ⟨-, revision, rfl⟩ := explicitStop_ok ht
    exact ⟨h.generation, h.attempt, h.episode, by simp, h.failed⟩
  | commitInitialAttempt generation id ht =>
    exact h.commitAttempt (commitInitialAttempt_ok ht).2
  | commitRecoveryAttempt authorization id ht =>
    exact h.commitAttempt (commitRecoveryAttempt_ok ht).2.2.2.2
  | recordOwnerCreated attemptId ht =>
    obtain ⟨-, a, revision, ha, -, hlifecycle, rfl⟩ := recordOwnerCreated_ok ht
    exact h.record ha rfl rfl (h.unsettled ha (by simp [hlifecycle]))
  | recordStreamStarted attemptId ht =>
    obtain ⟨-, a, revision, ha, -, hlifecycle, rfl⟩ := recordStreamStarted_ok ht
    refine h.record ha rfl rfl ?_
    split_ifs
    · simp
    · exact h.unsettled ha (by simp [hlifecycle])
  | recordNormalCompletion attemptId ht =>
    obtain ⟨-, a, revision, ha, -, -, hlifecycle, rfl⟩ := recordNormalCompletion_ok ht
    exact h.record ha rfl rfl (h.unsettled ha (by rintro hc; simp [hc] at hlifecycle))
  | recordFailure attemptId cause ht =>
    exact h.recordFailure ht
  | recordTerminalEventDelivered attemptId ht =>
    obtain ⟨a, revision, ha, -, -, hlifecycle, -, rfl⟩ := recordTerminalEventDelivered_ok ht
    have hunsettled := h.unsettled ha (by rintro hc; simp [hc] at hlifecycle)
    apply Coherent.refresh
    exact h.record ha rfl rfl hunsettled
  | recordCleanupComplete attemptId ht =>
    exact h.recordCleanupComplete ht
  | requireCooldown evaluated marker ht =>
    obtain ⟨-, -, a, revision, -, rfl⟩ := requireCooldown_ok ht
    exact ⟨h.generation, h.attempt, h.episode, h.settled, h.failed⟩
  | satisfyCooldown generation marker evidence ht =>
    obtain ⟨-, -, requirement, revision, -, -, rfl⟩ := satisfyCooldown_ok ht
    exact ⟨h.generation, h.attempt, h.episode, h.settled, h.failed⟩
  | markExhausted evaluated reason ht =>
    obtain ⟨-, hphase, episode, exhaustion, revision, hepisode, rfl⟩ := markExhausted_ok ht
    refine ⟨h.generation, h.attempt, ?_, fun _ => h.settled (.inl hphase), h.failed⟩
    rintro _ ⟨⟩
    exact h.episode episode hepisode
  | advanceRecoveryEpisode generation evidence id ht =>
    obtain ⟨-, hgeneration, hid, -, revision, rfl⟩ := advanceRecoveryEpisode_ok ht
    refine ⟨h.generation, h.attempt, ?_, fun hp => h.settled ?_, h.failed⟩
    · rintro _ ⟨⟩
      rw [hid]
      exact hgeneration
    · dsimp only at hp
      split_ifs at hp with hexhausted
      · exact .inr hexhausted
      · exact hp
  | snapshot _ _ => exact h

/-- Every run from a fresh state ends in a coherent one. -/
theorem Coherent.of_run {s₀ : RetryState historyCapacity} {events : List Event}
    (hnew : RetryState.new historyCapacity = .ok s₀)
    (h : (operations historyCapacity).Run s₀ events s) : s.Coherent := by
  apply TransitionSystem.Run.invariant (Coherent.new hnew) _ h
  rintro t ⟨operation, outcome⟩ t' ht hstep
  rw [operations_step] at hstep
  cases outcome with
  | ok output => exact ht.perform (apply_eq_ok.mp hstep)
  | error e => exact eq_of_apply_error hstep ▸ ht

/-! ## The changes of a step -/

/-- The version of a state: its last generation and its revision. -/
def version (s : RetryState historyCapacity) : ℕ ×ₗ ℕ :=
  toLex (s.lastIntentGeneration.toNat, s.stateRevision.get.toNat)

/-- The current episode and how many automatic attempts it started. -/
def episodeCount (s : RetryState historyCapacity) : Option (RecoveryEpisodeId × ℕ) :=
  s.recoveryEpisode.map fun e => (e.id, e.automaticRecoveryAttemptsStarted.toNat)

/-- The identity of the current attempt. -/
def attemptId (s : RetryState historyCapacity) : Option AttemptId :=
  s.currentAttempt.map AttemptState.id

/-- The state moves on in its generation. -/
structure Continues (s s' : RetryState historyCapacity) : Prop where
  /-- The last generation stays. -/
  last : s'.lastIntentGeneration = s.lastIntentGeneration
  /-- The current generation stays. -/
  generation : s'.intentGeneration = s.intentGeneration
  /-- The revision is the next one. -/
  revision : NextRevision s s'

/-- A step that neither commits an attempt nor moves the cooldown on: it keeps the attempt, and it
keeps the episode unless it opens the first one. -/
structure Records (s s' : RetryState historyCapacity) : Prop extends Continues s s' where
  /-- The attempt stays. -/
  attempt : s'.attemptId = s.attemptId
  /-- The cooldown stays, or it is invalidated. -/
  cooldown : s'.cooldown = s.cooldown ∨ ∃ requirement, s'.cooldown = .invalidated requirement
  /-- The episode stays, or the first one opens. -/
  episode : s'.episodeCount = s.episodeCount ∨ (s.recoveryEpisode = none ∧
    ∃ g, s.intentGeneration = some g ∧ s'.episodeCount = some (⟨g, ⟨1⟩⟩, 0))

/-- A step that commits an attempt. -/
structure Commits (s : RetryState historyCapacity) (id : AttemptId)
    (s' : RetryState historyCapacity) : Prop extends Continues s s' where
  /-- The attempt is the current one. -/
  attempt : s'.attemptId = some id
  /-- No cooldown is required any more. -/
  cooldown : s'.cooldown = .notRequired

/-- The changes that a step can make. -/
inductive Effect (s : RetryState historyCapacity) : Event → RetryState historyCapacity → Prop
  /-- The operation fails, and nothing changes. -/
  | failed (operation : Operation) (e : RetryTransitionError) : Effect s (operation, .error e) s
  /-- A snapshot is taken, and nothing changes. -/
  | observed (snapshot : RetrySnapshot) (taken : s.snapshot = .ok snapshot) :
      Effect s (.snapshot, .ok (.snapshot snapshot)) s
  /-- A fresh generation starts. -/
  | started (configurationId : RecoveryConfigurationIdentity) (g : IntentGeneration)
      (s' : RetryState historyCapacity)
      (next : g.get.toNat = s.lastIntentGeneration.toNat + 1)
      (last : s'.lastIntentGeneration = g.get) (attempt : s'.attemptId = none)
      (episode : s'.recoveryEpisode = none) (cooldown : s'.cooldown = .notRequired) :
      Effect s (.explicitStart configurationId, .ok (.generation g)) s'
  /-- A fact is recorded. -/
  | recorded (operation : Operation) (s' : RetryState historyCapacity) (records : Records s s') :
      Effect s (operation, .ok .done) s'
  /-- The initial attempt is committed. -/
  | committed (g : IntentGeneration) (id : AttemptId) (s' : RetryState historyCapacity)
      (commits : Commits s id s') (episode : s'.episodeCount = s.episodeCount) :
      Effect s (.commitInitialAttempt g, .ok (.attempt id)) s'
  /-- An automatic attempt is committed, and counted in the episode. -/
  | recovered (authorization : RecoveryAuthorization) (id : AttemptId)
      (s' : RetryState historyCapacity) (commits : Commits s id s')
      (performs : s.commitRecoveryAttempt authorization = .ok (id, s'))
      (episode : RecoveryEpisodeId) (n : ℕ) (before : s.episodeCount = some (episode, n))
      (after : s'.episodeCount = some (episode, n + 1)) :
      Effect s (.commitRecoveryAttempt authorization, .ok (.attempt id)) s'
  /-- A cooldown is required for the current attempt. -/
  | required (evaluated : RetrySnapshot) (marker : CooldownEligibilityMarker) (id : AttemptId)
      (s' : RetryState historyCapacity) (continues : Continues s s')
      (named : evaluated.currentAttempt.map AttemptState.id = some id)
      (attempt : s.attemptId = some id) (attempt' : s'.attemptId = some id)
      (cooldown : s'.cooldown = .pending ⟨id, marker⟩) (episode : s'.episodeCount = s.episodeCount) :
      Effect s (.requireCooldown evaluated marker, .ok .done) s'
  /-- A pending cooldown is satisfied. -/
  | satisfied (g : IntentGeneration) (requirement : CooldownRequirement)
      (evidence : CooldownEvidenceId) (s' : RetryState historyCapacity) (continues : Continues s s')
      (current : s.intentGeneration = some g) (pending : s.cooldown = .pending requirement)
      (attempt : s'.attemptId = s.attemptId) (cooldown : s'.cooldown = .satisfied requirement evidence)
      (episode : s'.episodeCount = s.episodeCount) :
      Effect s (.satisfyCooldown g requirement.marker evidence, .ok .done) s'
  /-- The next episode begins. -/
  | advanced (g : IntentGeneration) (evidence : RecoveryEpisodeResetEvidence)
      (id previous : RecoveryEpisodeId) (n : ℕ) (s' : RetryState historyCapacity)
      (continues : Continues s s') (current : s.intentGeneration = some id.intentGeneration)
      (next : id.ordinal.get.toNat = previous.ordinal.get.toNat + 1)
      (before : s.episodeCount = some (previous, n)) (after : s'.episodeCount = some (id, 0))
      (attempt : s'.attemptId = s.attemptId) (cooldown : s'.cooldown = .notRequired) :
      Effect s (.advanceRecoveryEpisode g evidence, .ok (.episode id)) s'

/-- The refresh keeps what `Records` is about. -/
theorem Records.refresh (h : Records s s') : Records s s'.refreshPostFailurePhase := by
  rcases s'.refreshPostFailurePhase_eq with heq | ⟨a, ha, -, heq⟩
  · rw [heq]
    exact h
  · rw [heq]
    refine ⟨⟨h.last, h.generation, h.revision⟩, ?_, h.cooldown, h.episode⟩
    rw [← h.attempt]
    simp [attemptId, ha]

/-- A committed attempt is the current one, and continues the generation. -/
theorem Commits.of_ok {kind : AttemptKind} {id : AttemptId}
    (h : s.commitAttempt kind = .ok (id, s')) : Commits s id s' := by
  obtain ⟨hrevision, -, episode, attemptsStarted, revision, -, rfl⟩ := commitAttempt_ok h
  exact ⟨⟨rfl, rfl, hrevision⟩, rfl, rfl⟩

/-- The initial attempt is not counted in an episode. -/
theorem episodeCount_initial {id : AttemptId}
    (h : s.commitAttempt .explicitStart = .ok (id, s')) : s'.episodeCount = s.episodeCount := by
  obtain ⟨-, -, episode, attemptsStarted, revision, hepisode, rfl⟩ := commitAttempt_ok h
  have hepisode : s.recoveryEpisode = episode := Except.ok.inj hepisode
  simp [episodeCount, hepisode]

/-- An automatic attempt is counted in its episode. -/
theorem episodeCount_automatic {id : AttemptId}
    (h : s.commitAttempt .automaticRecovery = .ok (id, s')) :
    ∃ episode n, s.episodeCount = some (episode, n) ∧ s'.episodeCount = some (episode, n + 1) := by
  obtain ⟨-, -, episode, attemptsStarted, revision, hepisode, rfl⟩ := commitAttempt_ok h
  unfold episodeAfter at hepisode
  obtain ⟨previous, hprevious, hepisode⟩ := Result.bind_eq_ok.mp hepisode
  obtain ⟨started, hstarted, hepisode⟩ := Result.bind_eq_ok.mp hepisode
  cases hepisode
  refine ⟨previous.id, previous.automaticRecoveryAttemptsStarted.toNat, ?_, ?_⟩
  · simp [episodeCount, okOr_eq_ok.mp hprevious]
  · simp [episodeCount, increment_eq_ok.mp hstarted]

/-- A recorded failure keeps the episode, or opens the generation's first. -/
theorem Records.recordFailure {attemptId : AttemptId} {cause : RetryFailureCause}
    (hop : s.recordFailure attemptId cause = .ok s') : Records s s' := by
  obtain ⟨a, episode, totals, consecutive, revision, ha, -, -, -, hepisode, -, hrevision, rfl⟩ :=
    recordFailure_ok hop
  apply Records.refresh
  refine ⟨⟨rfl, rfl, hrevision⟩, by simp [RetryState.attemptId, ha], .inl rfl, ?_⟩
  unfold failureEpisode at hepisode
  split at hepisode
  · rename_i e he
    cases hepisode
    exact .inl (by simp [episodeCount, he])
  · rename_i he
    obtain ⟨g, hg, hepisode⟩ := Result.bind_eq_ok.mp hepisode
    cases hepisode
    exact .inr ⟨he, g, okOr_eq_ok.mp hg, rfl⟩

/-- What an operation that succeeds changes. -/
theorem Effect.of_perform {operation : Operation} {output : Output}
    (hop : s.perform operation = .ok (output, s')) : Effect s (operation, .ok output) s' := by
  cases Performs.of_perform hop with
  | explicitStart configurationId generation ht =>
    obtain ⟨hnext, hlast, -, -, hattempt, hepisode, hcooldown⟩ := explicitStart_ok ht
    exact .started _ _ _ hnext hlast (by simp [attemptId, hattempt]) hepisode hcooldown
  | explicitStop generation ht =>
    obtain ⟨hrevision, revision, rfl⟩ := explicitStop_ok ht
    refine .recorded _ _ ⟨⟨rfl, rfl, hrevision⟩, rfl, ?_, .inl rfl⟩
    cases s.cooldown <;> simp [CooldownState.invalidate]
  | commitInitialAttempt generation id ht =>
    obtain ⟨-, ht⟩ := commitInitialAttempt_ok ht
    exact .committed _ _ _ (.of_ok ht) (episodeCount_initial ht)
  | commitRecoveryAttempt authorization id ht =>
    have hcommit := (commitRecoveryAttempt_ok ht).2.2.2.2
    obtain ⟨episode, n, hbefore, hafter⟩ := episodeCount_automatic hcommit
    exact .recovered _ _ _ (.of_ok hcommit) ht episode n hbefore hafter
  | recordOwnerCreated attemptId ht =>
    obtain ⟨hrevision, a, revision, ha, -, -, rfl⟩ := recordOwnerCreated_ok ht
    exact .recorded _ _ ⟨⟨rfl, rfl, hrevision⟩, by simp [RetryState.attemptId, ha], .inl rfl,
      .inl rfl⟩
  | recordStreamStarted attemptId ht =>
    obtain ⟨hrevision, a, revision, ha, -, -, rfl⟩ := recordStreamStarted_ok ht
    exact .recorded _ _ ⟨⟨rfl, rfl, hrevision⟩, by simp [RetryState.attemptId, ha], .inl rfl,
      .inl rfl⟩
  | recordNormalCompletion attemptId ht =>
    obtain ⟨hrevision, a, revision, ha, -, -, -, rfl⟩ := recordNormalCompletion_ok ht
    exact .recorded _ _ ⟨⟨rfl, rfl, hrevision⟩, by simp [RetryState.attemptId, ha], .inl rfl,
      .inl rfl⟩
  | recordFailure attemptId cause ht =>
    exact .recorded _ _ (.recordFailure ht)
  | recordTerminalEventDelivered attemptId ht =>
    obtain ⟨a, revision, ha, -, -, -, hrevision, rfl⟩ := recordTerminalEventDelivered_ok ht
    refine .recorded _ _ (Records.refresh ?_)
    exact ⟨⟨rfl, rfl, hrevision⟩, by simp [RetryState.attemptId, ha], .inl rfl, .inl rfl⟩
  | recordCleanupComplete attemptId ht =>
    obtain ⟨a, revision, ha, -, hrevision, rfl⟩ := recordCleanupComplete_ok ht
    refine .recorded _ _ (Records.refresh ?_)
    exact ⟨⟨rfl, rfl, hrevision⟩, by simp [RetryState.attemptId, ha, releasedAttempt], .inl rfl,
      .inl rfl⟩
  | requireCooldown evaluated marker ht =>
    obtain ⟨hrevision, hcurrent, a, revision, ha, rfl⟩ := requireCooldown_ok ht
    have hid : s.attemptId = some a.id := by simp [attemptId, ha]
    obtain ⟨-, -, -, -, hnamed⟩ := requireCurrentSnapshot_ok hcurrent
    exact .required _ _ a.id _ ⟨rfl, rfl, hrevision⟩ (hnamed.trans hid) hid hid rfl rfl
  | satisfyCooldown generation marker evidence ht =>
    obtain ⟨hrevision, hgeneration, requirement, revision, hpending, rfl, rfl⟩ :=
      satisfyCooldown_ok ht
    exact .satisfied _ requirement _ _ ⟨rfl, rfl, hrevision⟩ hgeneration hpending rfl rfl rfl
  | markExhausted evaluated reason ht =>
    obtain ⟨hrevision, -, episode, exhaustion, revision, hepisode, rfl⟩ := markExhausted_ok ht
    exact .recorded _ _ ⟨⟨rfl, rfl, hrevision⟩, rfl, .inl rfl,
      .inl (by simp [episodeCount, hepisode])⟩
  | advanceRecoveryEpisode generation evidence id ht =>
    obtain ⟨hrevision, hgeneration, hid, ⟨previous, hprevious, hnext⟩, revision, rfl⟩ :=
      advanceRecoveryEpisode_ok ht
    exact .advanced _ _ id previous.id _ _ ⟨rfl, rfl, hrevision⟩ (hid ▸ hgeneration) hnext
      (by simp [episodeCount, hprevious]; rfl) rfl rfl rfl
  | snapshot r hr => exact .observed r hr

/-- What a step changes. -/
theorem Effect.of_step {e : Event} (h : (operations historyCapacity).step s e s') :
    Effect s e s' := by
  obtain ⟨operation, outcome⟩ := e
  rw [operations_step] at h
  cases outcome with
  | ok output => exact .of_perform (apply_eq_ok.mp h)
  | error e =>
    obtain rfl := eq_of_apply_error h
    exact .failed operation e

/-- The next revision of a generation is a later version. -/
theorem Continues.version_lt (h : Continues s s') : s.version < s'.version := by
  rw [version, version, Prod.Lex.toLex_lt_toLex, h.last, h.revision]
  exact .inr ⟨rfl, Nat.lt_succ_self _⟩

/-- An event that changes the state: an operation other than a snapshot that succeeds. -/
def Mutates (e : Event) : Prop := e.1 ≠ .snapshot ∧ e.2.isOk

/-- An event that changes the state makes a later version. -/
theorem Effect.version_lt {e : Event} (h : Effect s e s') (hmutates : Mutates e) :
    s.version < s'.version := by
  cases h with
  | failed operation e => cases hmutates.2
  | observed snapshot taken => exact absurd rfl hmutates.1
  | started configurationId g s' next last attempt episode cooldown =>
    rw [version, version, Prod.Lex.toLex_lt_toLex, last, next]
    exact .inl (Nat.lt_succ_self _)
  | recorded operation s' records => exact records.version_lt
  | committed g id s' commits episode => exact commits.version_lt
  | recovered authorization id s' commits performs episode n before after =>
    exact commits.version_lt
  | required evaluated marker id s' continues named attempt attempt' cooldown episode =>
    exact continues.version_lt
  | satisfied g requirement evidence s' continues current pending attempt cooldown episode =>
    exact continues.version_lt
  | advanced g evidence id previous n s' continues current next before after attempt cooldown =>
    exact continues.version_lt

/-- An event that does not change the state leaves it. -/
theorem eq_of_not_mutates {e : Event} (h : (operations historyCapacity).step s e s')
    (hkeeps : ¬Mutates e) : s' = s := by
  obtain ⟨operation, outcome⟩ := e
  rw [operations_step] at h
  cases outcome with
  | error error => exact eq_of_apply_error h
  | ok output =>
    have hsnapshot : operation = .snapshot := by
      by_contra hother
      exact hkeeps ⟨hother, rfl⟩
    subst hsnapshot
    obtain ⟨r, -, heq⟩ := Result.map_eq_ok.mp (apply_eq_ok.mp h)
    cases heq
    rfl

/-- A step stays, or makes a later version. -/
theorem eq_or_version_lt {e : Event} (h : (operations historyCapacity).step s e s') :
    s' = s ∨ s.version < s'.version := by
  by_cases hmutates : Mutates e
  · exact .inr ((Effect.of_step h).version_lt hmutates)
  · exact .inl (eq_of_not_mutates h hmutates)

/-- A snapshot whose generation and revision are the state's, however many steps it is old, has the
state's data. -/
theorem snapshot_current {s₀ t : RetryState historyCapacity} {before after : List Event}
    {snapshot : RetrySnapshot} (hnew : RetryState.new historyCapacity = .ok s₀)
    (hbefore : (operations historyCapacity).Run s₀ before t) (htaken : t.snapshot = .ok snapshot)
    (hafter : (operations historyCapacity).Run t after s)
    (hgeneration : s.intentGeneration = some snapshot.intentGeneration)
    (hrevision : snapshot.stateRevision = s.stateRevision) : s.snapshot = .ok snapshot := by
  have ht := Coherent.of_run hnew hbefore
  have hs := Coherent.of_run hnew (TransitionSystem.run_append.mpr ⟨t, hbefore, hafter⟩)
  obtain ⟨htgeneration, htrevision, -⟩ := snapshot_ok htaken
  have hversion : t.version = s.version := by
    rw [version, version, ← hs.generation _ hgeneration, ← ht.generation _ htgeneration,
      ← hrevision, htrevision]
  have hsame := hafter.eq_of_version_eq (fun _ _ _ h => eq_or_version_lt h) hversion
  rw [hsame]
  exact htaken

end Runs

end RetryState

end ResonanceSignal
