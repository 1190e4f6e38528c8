import ResonanceSignal.Agent.FailureAgreement

/-!
# The life of a supervisor

The supervisor drives the retry state through transitions that it expects to succeed. They do: while
an owner is there the retry state is one of two values (`ownedRetryState`), with or without a stop
before, and from these the completion of the owner is recorded whatever its callback saw
(`recordAttemptCompletion_owned`). `Lifecycle` is the joint invariant of the supervisor and its
retry state, and `Follows` is what one call changes; `call_spec` gives both for every call, and so
no call panics.

An event that an owner emits inside its own `start` is an event before that call here: the call
reads what the callback saw only after the owner has answered.
-/

namespace ResonanceSignal

namespace CaptureSupervisor

/-- What the trait of an owner promises of its answers: where its start did not begin a run, its
completion is there at once. -/
def Call.Obeys : Call → Prop
  | .start answers => answers.start = .ok .started ∨ answers.completion.isOk
  | _ => True

/-- A call asks the factory for an owner. -/
def Call.creates (self : CaptureSupervisor) : Call → Bool
  | .start _ => self.state = .idle
  | _ => false

/-- How often a list of calls asks the factory for an owner. -/
def creations (self : CaptureSupervisor) : List Call → ℕ
  | [] => 0
  | c :: cs =>
    (if c.creates self then 1 else 0) +
      match self.call c with
      | some s => s.creations cs
      | none => 0

/-- A call is a stop. -/
def Call.IsStop (c : Call) : Prop := ∃ answer, c = .stop answer

/-- A recorded evaluation says that the supervisor was stopped. -/
def SaysStopped (evaluation : RecordedRecoveryEvaluation) : Prop :=
  evaluation.decision = .remainStopped .explicitStop

/-! ## The retry state of an owner -/

/-- The retry state of a supervisor with a running owner, before or after a stop. -/
def ownedRetryState (configurationId : RecoveryConfigurationIdentity) (wanted : Bool) :
    RetryState retryHistoryCapacity :=
  if wanted then liveRetryState configurationId false
  else { liveRetryState configurationId false with
    desiredRunning := false
    phase := .stopped
    stateRevision := ⟨4⟩ }

/-- The retry state of an attempt that is over. -/
structure Settled (configurationId : RecoveryConfigurationIdentity)
    (retryState : RetryState retryHistoryCapacity) : Prop where
  /-- The generation is the only one. -/
  generation : retryState.intentGeneration = some ⟨1⟩
  /-- The configuration is the supervisor's. -/
  configurationId : retryState.configurationId = some configurationId
  /-- The attempt is there. -/
  attempt : retryState.currentAttempt.isSome
  /-- It is the only one. -/
  attemptsStarted : retryState.attemptsStarted = 1
  /-- A revision that a stop may still raise is small. -/
  revision : retryState.desiredRunning = true → retryState.stateRevision.get.toNat ≤ 8

variable {configurationId : RecoveryConfigurationIdentity}
  {retryState : RetryState retryHistoryCapacity}

/-- The completion of an owned attempt is recorded, whatever its callback saw. -/
theorem recordAttemptCompletion_owned (configurationId : RecoveryConfigurationIdentity)
    (wanted : Bool) (observation : CaptureTerminalObservation)
    (completion : CaptureSupervisorCompletion) :
    ∃ retryState,
      recordAttemptCompletion (ownedRetryState configurationId wanted) observation completion
        = some retryState ∧ Settled configurationId retryState ∧
      retryState.desiredRunning = wanted := by
  unfold recordAttemptCompletion
  generalize retryFailureFor completion = failure
  obtain ⟨started, error, endReason⟩ := observation
  -- Which steps are recorded depends on the flags alone, and each of them is a computation.
  cases wanted <;> cases started <;> cases endReason <;> cases failure with
  | none => exact ⟨_, rfl, ⟨rfl, rfl, rfl, rfl, fun _ => Nat.le_of_ble_eq_true rfl⟩, rfl⟩
  | some cause =>
    cases cause <;>
      exact ⟨_, rfl, ⟨rfl, rfl, rfl, rfl, fun _ => Nat.le_of_ble_eq_true rfl⟩, rfl⟩

/-! ## Evaluations -/

variable {s s' : CaptureSupervisor}

/-- Whether capture is wanted. -/
def desiredRunning (s : CaptureSupervisor) : Bool := s.retryState.desiredRunning

/-- A settled attempt is evaluated. -/
theorem recordRecoveryEvaluation_settled (hcompletion : s.completion.isSome)
    (h : Settled configurationId s.retryState) :
    ∃ evaluation,
      s.recordRecoveryEvaluation = some { s with recoveryEvaluation := some evaluation } ∧
      (s.desiredRunning = false → SaysStopped evaluation) := by
  obtain ⟨completion, hcompletion⟩ := Option.isSome_iff_exists.mp hcompletion
  obtain ⟨attempt, hattempt⟩ := Option.isSome_iff_exists.mp h.attempt
  unfold recordRecoveryEvaluation recoverySnapshot RetryState.snapshot
  simp only [h.generation, h.configurationId, hcompletion, okOr, bind, Except.bind, pure,
    Except.pure, Except.toOption, Option.bind, hattempt]
  refine ⟨_, rfl, ?_⟩
  intro hwanted
  unfold SaysStopped
  unfold desiredRunning at hwanted
  rw [hwanted]
  rfl

/-- Without an intent there is nothing to evaluate. -/
theorem recordRecoveryEvaluation_fresh
    (h : RetryState.new retryHistoryCapacity = .ok s.retryState) :
    s.recordRecoveryEvaluation = some s := by
  have hnone : s.retryState.snapshot.toOption = none := by
    generalize s.retryState = retryState at h
    cases h
    rfl
  unfold recordRecoveryEvaluation recoverySnapshot
  rw [hnone]
  rfl

/-! ## The invariant -/

/-- The outcome of the owner is kept, and its resources are released. -/
structure Over (s : CaptureSupervisor) : Prop where
  /-- The lifecycle is over. -/
  state : s.state = .completed
  /-- The outcome is kept. -/
  completion : s.completion.isSome
  /-- The resources are released. -/
  released : s.resourcesReleased = true

/-- The owner is there, and has not completed. -/
structure Owned (s : CaptureSupervisor) (wanted : Bool) : Prop where
  /-- The owner. -/
  owner : s.hasOwner = true
  /-- There is no outcome yet. -/
  completion : s.completion = none
  /-- The resources are not released. -/
  released : s.resourcesReleased = false
  /-- Nothing was evaluated. -/
  evaluation : s.recoveryEvaluation = none
  /-- The retry state. -/
  retryState : s.retryState = ownedRetryState s.recoveryConfiguration.identity wanted

/-- What a supervisor and its retry state are together. -/
inductive Lifecycle (s : CaptureSupervisor) : Prop
  /-- Nothing happened. -/
  | idle (state : s.state = .idle) (callback : s.holdsOnEvent = true)
      (completion : s.completion = none) (released : s.resourcesReleased = false)
      (evaluation : s.recoveryEvaluation = none)
      (fresh : RetryState.new retryHistoryCapacity = .ok s.retryState)
  /-- The owner runs, and may have been asked to stop. -/
  | owned (wanted : Bool) (state : s.state = .running ∨ s.state = .stopping)
      (owned : s.Owned wanted)
  /-- The supervisor was stopped before it was started. -/
  | stoppedBeforeStart (isOver : s.Over) (evaluation : s.recoveryEvaluation = none)
      (fresh : RetryState.new retryHistoryCapacity = .ok s.retryState)
  /-- The attempt is over. -/
  | settled (isOver : s.Over)
      (settled : Settled s.recoveryConfiguration.identity s.retryState)
      (evaluation : ∃ evaluation, s.recoveryEvaluation = some evaluation ∧
        (s.desiredRunning = false → SaysStopped evaluation))

/-- What a call changes. -/
structure Follows (s : CaptureSupervisor) (c : Call) (s' : CaptureSupervisor) : Prop where
  /-- An outcome stays. -/
  completion : ∀ completion, s.completion = some completion → s'.completion = some completion
  /-- No call leads back to the beginning. -/
  leaves : s.state ≠ .idle → s'.state ≠ .idle
  /-- A call that asks for an owner leaves it. -/
  creates : c.creates s = true → s'.state ≠ .idle
  /-- A stop ends the intent. -/
  stop : c.IsStop → s'.state ≠ .idle ∧ s'.desiredRunning = false
  /-- An intent that ended stays so. -/
  stays : s.state ≠ .idle → s.desiredRunning = false → s'.desiredRunning = false

/-- A call other than a stop that changes nothing. -/
theorem Follows.refl {c : Call} (hstop : ¬c.IsStop) (hcreates : c.creates s = false) :
    Follows s c s where
  completion _ h := h
  leaves h := h
  creates h := by
    rw [hcreates] at h
    cases h
  stop h := absurd h hstop
  stays _ h := h

/-! ## The owner's completion -/

/-- What the completion of an owner makes of a supervisor. -/
structure Finishes (s : CaptureSupervisor) (wanted : Bool) (s' : CaptureSupervisor) : Prop where
  /-- The lifecycle is over. -/
  isOver : s'.Over
  /-- The configuration stays. -/
  configuration : s'.recoveryConfiguration = s.recoveryConfiguration
  /-- The attempt is settled. -/
  settled : Settled s.recoveryConfiguration.identity s'.retryState
  /-- The intent stays. -/
  desiredRunning : s'.desiredRunning = wanted
  /-- The attempt is evaluated. -/
  evaluation : ∃ evaluation, s'.recoveryEvaluation = some evaluation ∧
    (s'.desiredRunning = false → SaysStopped evaluation)

/-- While the owner runs nothing changes, and its completion is recorded. -/
theorem recordOwnerCompletion_owned {wanted : Bool} (h : s.Owned wanted)
    (answer : Except CaptureOwnerShutdownTimeout CaptureOwnerCompletion) :
    (∃ error, answer = .error error ∧
      s.recordOwnerCompletion answer = some (.error error, s)) ∨
    ∃ completion s', answer = .ok completion ∧
      s.recordOwnerCompletion answer = some (.ok completion.summary, s') ∧
      Finishes s wanted s' := by
  unfold recordOwnerCompletion guard
  rw [h.completion]
  dsimp only
  rw [if_pos h.owner]
  cases answer with
  | error error => exact .inl ⟨error, rfl, rfl⟩
  | ok completion =>
    obtain ⟨retryState, hretry, hsettled, hwanted⟩ := recordAttemptCompletion_owned
      s.recoveryConfiguration.identity wanted s.observation completion.summary
    set finished : CaptureSupervisor := { s with
      completion := some completion.summary
      resourcesReleased := true
      state := .completed
      retryState } with hfinished
    obtain ⟨evaluation, hevaluation, hstopped⟩ :=
      recordRecoveryEvaluation_settled (s := finished) rfl hsettled
    refine .inr ⟨completion, { finished with recoveryEvaluation := some evaluation }, rfl, ?_,
      ⟨rfl, rfl, rfl⟩, rfl, hsettled, hwanted, evaluation, rfl, hstopped⟩
    show (recordAttemptCompletion s.retryState s.observation completion.summary).bind _ = _
    rw [h.retryState, hretry]
    show finished.recordRecoveryEvaluation.bind _ = _
    rw [hevaluation]
    rfl

/-- The completion of an owner keeps the invariant. -/
theorem Finishes.lifecycle {wanted : Bool} (h : Finishes s wanted s') : s'.Lifecycle :=
  .settled h.isOver (h.configuration ▸ h.settled) h.evaluation

/-- The completion of an owner follows. -/
theorem Finishes.follows {wanted : Bool} {c : Call} (h : Finishes s wanted s')
    (hcompletion : s.completion = none) (hstop : c.IsStop → wanted = false)
    (hwanted : s.state ≠ .idle → s.desiredRunning = false → wanted = false) :
    Follows s c s' where
  completion completion hsome := by
    rw [hcompletion] at hsome
    cases hsome
  leaves _ := by simp [h.isOver.state]
  creates _ := by simp [h.isOver.state]
  stop hc := ⟨by simp [h.isOver.state], h.desiredRunning.trans (hstop hc)⟩
  stays hidle hdesired := h.desiredRunning.trans (hwanted hidle hdesired)

/-! ## The calls -/

/-- A start that leaves the beginning without an outcome, or with a first one. -/
theorem Follows.of_start {answers : StartAnswers} (hidle : s.state = .idle)
    (hcompletion : s.completion = none) (hleft : s'.state ≠ .idle) :
    Follows s (.start answers) s' where
  completion completion hsome := by
    rw [hcompletion] at hsome
    cases hsome
  leaves _ := hleft
  creates _ := hleft
  stop := by
    rintro ⟨answer, hstop⟩
    cases hstop
  stays hstarted := absurd hidle hstarted

/-- The retry state of a start up to the call of the factory. -/
theorem start_commits (configurationId : RecoveryConfigurationIdentity)
    {retryState : RetryState retryHistoryCapacity}
    (hfresh : RetryState.new retryHistoryCapacity = .ok retryState) :
    ∃ started committed,
      retryState.explicitStart configurationId = .ok (⟨1⟩, started) ∧
      started.commitInitialAttempt ⟨1⟩ = .ok (⟨⟨1⟩, ⟨1⟩⟩, committed) ∧
      committed.recordOwnerCreated ⟨⟨1⟩, ⟨1⟩⟩ = .ok (ownedRetryState configurationId true) ∧
      ∃ failed released,
        committed.recordFailure ⟨⟨1⟩, ⟨1⟩⟩ .ownerConstructionFailure = .ok failed ∧
        failed.recordCleanupComplete ⟨⟨1⟩, ⟨1⟩⟩ = .ok released ∧
        Settled configurationId released := by
  cases hfresh
  exact ⟨_, _, rfl, rfl, rfl, _, _, rfl, rfl, rfl, rfl, rfl, rfl, fun _ => Nat.le_of_ble_eq_true rfl⟩

/-- The start of a supervisor that was not started. -/
theorem start_spec (hidle : s.state = .idle) (hcallback : s.holdsOnEvent = true)
    (hcompletion : s.completion = none) (hreleased : s.resourcesReleased = false)
    (hnone : s.recoveryEvaluation = none)
    (hfresh : RetryState.new retryHistoryCapacity = .ok s.retryState) {answers : StartAnswers}
    (hobeys : (Call.start answers).Obeys) :
    ∃ s', s.call (.start answers) = some s' ∧ s'.Lifecycle ∧ Follows s (.start answers) s' := by
  obtain ⟨started, committed, hstarted, hcommitted, hcreated, failed, released, hfailed, hcleaned,
    hsettled⟩ := start_commits s.recoveryConfiguration.identity hfresh
  show ∃ s', (s.start answers).map Prod.snd = some s' ∧ _
  unfold start guard
  rw [if_neg (not_not.mpr hidle), hstarted]
  simp only [Except.toOption, bind, Option.bind, hcommitted, hcreated, hfailed, hcleaned]
  rw [if_pos hcallback]
  cases answers with
  | mk create start completion =>
  cases create with
  | error error =>
    obtain ⟨evaluation, hevaluation, hsays⟩ := recordRecoveryEvaluation_settled (s := { s with
      holdsOnEvent := false
      retryState := released
      resourcesReleased := true
      completion := some .constructionFailed
      state := .completed }) rfl hsettled
    dsimp only
    rw [hevaluation]
    exact ⟨_, rfl, .settled ⟨rfl, rfl, rfl⟩ hsettled ⟨evaluation, rfl, hsays⟩,
      .of_start hidle hcompletion (by simp)⟩
  | ok =>
    set owning : CaptureSupervisor := { s with
      holdsOnEvent := false
      retryState := ownedRetryState s.recoveryConfiguration.identity true
      hasOwner := true } with howning
    have howned : owning.Owned true := ⟨rfl, hcompletion, hreleased, hnone, rfl⟩
    -- A start that does not begin a run finds the owner completed.
    have hfinishes : completion.isOk = true → ∃ summary s',
        owning.recordOwnerCompletion completion = some (.ok summary, s') ∧ s'.Lifecycle ∧
        Follows s (.start ⟨.ok (), start, completion⟩) s' := by
      intro hok
      rcases recordOwnerCompletion_owned howned completion with
        ⟨error, rfl, -⟩ | ⟨outcome, s', rfl, hrecord, hfinishes⟩
      · cases hok
      · refine ⟨outcome.summary, s', hrecord, hfinishes.lifecycle,
          .of_start hidle hcompletion ?_⟩
        simp [hfinishes.isOver.state]
    cases start with
    | error error =>
      obtain ⟨summary, s', hrecord, hlifecycle, hfollows⟩ :=
        hfinishes (hobeys.resolve_left (by simp))
      dsimp only
      rw [hrecord]
      exact ⟨s', rfl, hlifecycle, hfollows⟩
    | ok outcome =>
      cases outcome with
      | started =>
        exact ⟨_, rfl, .owned true (.inl rfl) ⟨rfl, hcompletion, hreleased, hnone, rfl⟩,
          .of_start hidle hcompletion (by simp)⟩
      | stopAlreadyRequested =>
        obtain ⟨summary, s', hrecord, hlifecycle, hfollows⟩ :=
          hfinishes (hobeys.resolve_left (by simp))
        dsimp only
        rw [hrecord]
        exact ⟨s', rfl, hlifecycle, hfollows⟩

/-- A supervisor that was started is not started again. -/
theorem start_again {answers : StartAnswers} (h : s.state ≠ .idle) :
    s.call (.start answers) = some s := by
  show (s.start answers).map Prod.snd = some s
  unfold start
  rw [if_pos h]
  rfl

/-- Where the outcome is kept, there is nothing to record. -/
theorem recordOwnerCompletion_over (h : s.Over)
    (answer : Except CaptureOwnerShutdownTimeout CaptureOwnerCompletion) :
    ∃ completion, s.recordOwnerCompletion answer = some (.ok completion, s) := by
  obtain ⟨completion, hcompletion⟩ := Option.isSome_iff_exists.mp h.completion
  refine ⟨completion, ?_⟩
  unfold recordOwnerCompletion
  rw [hcompletion]

/-- A wait keeps the invariant. -/
theorem waitForCompletion_spec (h : s.Lifecycle)
    (answer : Except CaptureOwnerShutdownTimeout CaptureOwnerCompletion) :
    ∃ s', s.call (.waitForCompletion answer) = some s' ∧ s'.Lifecycle ∧
      Follows s (.waitForCompletion answer) s' := by
  have hstop : ¬(Call.waitForCompletion answer).IsStop := by
    rintro ⟨_, heq⟩
    cases heq
  -- A wait after the end changes nothing.
  have hover : s.Over → s.call (.waitForCompletion answer) = some s := by
    intro hover
    obtain ⟨completion, hrecord⟩ := recordOwnerCompletion_over hover answer
    rw [call_waitForCompletion (by simp [hover.state]), hrecord]
    rfl
  cases h with
  | idle state callback completion released evaluation fresh =>
    refine ⟨s, ?_, .idle state callback completion released evaluation fresh, .refl hstop rfl⟩
    show (s.waitForCompletion answer).map Prod.snd = some s
    unfold waitForCompletion
    rw [if_pos state]
    rfl
  | owned wanted state howned =>
    have hstarted : s.state ≠ .idle := by rcases state with h | h <;> simp [h]
    rw [call_waitForCompletion hstarted]
    rcases recordOwnerCompletion_owned howned answer with
      ⟨error, rfl, hrecord⟩ | ⟨outcome, s', rfl, hrecord, hfinishes⟩
    · rw [hrecord]
      exact ⟨s, rfl, .owned wanted state howned, .refl hstop rfl⟩
    · rw [hrecord]
      refine ⟨s', rfl, hfinishes.lifecycle, hfinishes.follows howned.completion
        (fun hc => absurd hc hstop) fun _ hdesired => ?_⟩
      unfold desiredRunning at hdesired
      rw [howned.retryState] at hdesired
      cases wanted with
      | true => cases hdesired
      | false => rfl
  | stoppedBeforeStart isOver evaluation fresh =>
    exact ⟨s, hover isOver, .stoppedBeforeStart isOver evaluation fresh, .refl hstop rfl⟩
  | settled isOver settled evaluation =>
    exact ⟨s, hover isOver, .settled isOver settled evaluation, .refl hstop rfl⟩

/-- A stop of an attempt that is over ends its intent. -/
theorem explicitStop_settled (h : Settled configurationId retryState)
    (hwanted : retryState.desiredRunning = true) :
    ∃ stopped, retryState.explicitStop ⟨1⟩ = .ok stopped ∧ Settled configurationId stopped ∧
      stopped.desiredRunning = false := by
  have hrevision := h.revision hwanted
  obtain ⟨next, hnext⟩ : ∃ next, Checked.add retryState.stateRevision.get 1 = some next := by
    cases hadd : Checked.add retryState.stateRevision.get 1 with
    | some next => exact ⟨next, rfl⟩
    | none =>
      rw [Checked.add_eq_none] at hadd
      have hone : (1 : UInt64).toNat = 1 := rfl
      omega
  unfold RetryState.explicitStop RetryState.requireGeneration RetryState.nextRevision increment
  rw [h.generation, hnext]
  refine ⟨_, rfl, ⟨rfl, h.configurationId, h.attempt, h.attemptsStarted, ?_⟩, rfl⟩
  intro hwanted
  cases hwanted

/-- A retry state without an intent has none to end. -/
theorem disableRecoveryIntent_fresh
    (h : RetryState.new retryHistoryCapacity = .ok s.retryState) :
    s.disableRecoveryIntent = some s ∧ s.desiredRunning = false := by
  unfold disableRecoveryIntent desiredRunning
  generalize s.retryState = retryState at h
  cases h
  exact ⟨rfl, rfl⟩

/-- The intent of an owner ends. -/
theorem disableRecoveryIntent_owned {wanted : Bool} (h : s.Owned wanted) :
    s.disableRecoveryIntent = some { s with
      retryState := ownedRetryState s.recoveryConfiguration.identity false } := by
  unfold disableRecoveryIntent
  cases wanted with
  | true =>
    rw [h.retryState]
    rfl
  | false =>
    have hkept : s = { s with
        retryState := ownedRetryState s.recoveryConfiguration.identity false } := by
      rw [← h.retryState]
    rw [h.retryState]
    exact congrArg some hkept

/-- The intent of an attempt that is over ends. -/
theorem disableRecoveryIntent_settled (h : Settled configurationId s.retryState) :
    ∃ retryState, s.disableRecoveryIntent = some { s with retryState } ∧
      Settled configurationId retryState ∧ retryState.desiredRunning = false := by
  unfold disableRecoveryIntent
  rw [h.generation]
  dsimp only
  by_cases hwanted : s.retryState.desiredRunning = true
  · obtain ⟨stopped, hstop, hsettled, hended⟩ := explicitStop_settled h hwanted
    refine ⟨stopped, ?_, hsettled, hended⟩
    rw [if_pos hwanted, hstop]
    rfl
  · exact ⟨s.retryState, if_neg hwanted, h, Bool.eq_false_iff.mpr hwanted⟩

/-- A stop of a supervisor whose outcome is kept. -/
theorem stop_over (answer : Except CaptureOwnerShutdownTimeout CaptureOwnerCompletion)
    {ended evaluated : CaptureSupervisor} (hended : s.disableRecoveryIntent = some ended)
    (hstate : ended.state = .completed)
    (hevaluated : ended.recordRecoveryEvaluation = some evaluated)
    (hcompletion : evaluated.completion.isSome) :
    s.call (.stop answer) = some evaluated := by
  obtain ⟨completion, hcompletion⟩ := Option.isSome_iff_exists.mp hcompletion
  show (s.stop answer).map _ = _
  unfold stop
  simp only [bind, Option.bind, hended, hstate, hevaluated, hcompletion]
  rfl

/-- A stop keeps the invariant. -/
theorem stop_spec (h : s.Lifecycle)
    (answer : Except CaptureOwnerShutdownTimeout CaptureOwnerCompletion) :
    ∃ s', s.call (.stop answer) = some s' ∧ s'.Lifecycle ∧ Follows s (.stop answer) s' := by
  cases h with
  | idle state callback completion released evaluation fresh =>
    -- Nothing was started, so the stop completes at once.
    obtain ⟨hdisabled, hwanted⟩ := disableRecoveryIntent_fresh fresh
    refine ⟨{ s with
      resourcesReleased := true
      completion := some .stoppedBeforeStart
      state := .completed }, ?_, .stoppedBeforeStart ⟨rfl, rfl, rfl⟩ evaluation fresh, ?_⟩
    · show (s.stop answer).map _ = _
      unfold stop
      simp only [bind, Option.bind, hdisabled, state]
      rfl
    · exact {
        completion := fun _ hsome => by
          rw [completion] at hsome
          cases hsome
        leaves := fun _ => by simp
        creates := fun _ => by simp
        stop := fun _ => ⟨by simp, hwanted⟩
        stays := fun _ _ => hwanted }
  | owned wanted state howned =>
    -- The intent ends first, and then the owner is asked to shut down.
    set stopping : CaptureSupervisor := { s with
      retryState := ownedRetryState s.recoveryConfiguration.identity false
      state := .stopping } with hstopping
    have hstopped : stopping.Owned false :=
      ⟨howned.owner, howned.completion, howned.released, howned.evaluation, rfl⟩
    have hcall : s.call (.stop answer)
        = (stopping.recordOwnerCompletion answer).map Prod.snd := by
      have howner : (guard (s.hasOwner = true) : Option Unit) = some () := if_pos howned.owner
      show (s.stop answer).map _ = _
      unfold stop
      simp only [bind, Option.bind, disableRecoveryIntent_owned howned]
      rcases state with state | state <;> simp only [state, howner]
      all_goals
        show Option.map _ ((stopping.recordOwnerCompletion answer).bind _) = _
        cases stopping.recordOwnerCompletion answer <;> rfl
    rw [hcall]
    rcases recordOwnerCompletion_owned hstopped answer with
      ⟨error, rfl, hrecord⟩ | ⟨outcome, s', rfl, hrecord, hfinishes⟩
    · -- The owner did not answer in time: the supervisor keeps it, and stays stopping.
      rw [hrecord]
      refine ⟨stopping, rfl, .owned false (.inr rfl) hstopped, ?_⟩
      exact {
        completion := fun _ hsome => hsome
        leaves := fun _ => by simp [hstopping]
        creates := fun _ => by simp [hstopping]
        stop := fun _ => ⟨by simp [hstopping], rfl⟩
        stays := fun _ _ => rfl }
    · rw [hrecord]
      have hfinishes : Finishes s false s' := ⟨hfinishes.isOver, hfinishes.configuration,
        hfinishes.settled, hfinishes.desiredRunning, hfinishes.evaluation⟩
      exact ⟨s', rfl, hfinishes.lifecycle,
        hfinishes.follows howned.completion (fun _ => rfl) fun _ _ => rfl⟩
  | stoppedBeforeStart isOver evaluation fresh =>
    obtain ⟨hdisabled, hwanted⟩ := disableRecoveryIntent_fresh fresh
    refine ⟨s, stop_over answer hdisabled isOver.state
      (recordRecoveryEvaluation_fresh fresh) isOver.completion,
      .stoppedBeforeStart isOver evaluation fresh, ?_⟩
    exact {
      completion := fun _ hsome => hsome
      leaves := id
      creates := fun _ => by simp [isOver.state]
      stop := fun _ => ⟨by simp [isOver.state], hwanted⟩
      stays := fun _ _ => hwanted }
  | settled isOver settled evaluation =>
    -- The attempt is over, and only the intent is left to end.
    obtain ⟨retryState, hdisabled, hsettled, hended⟩ := disableRecoveryIntent_settled settled
    set ended : CaptureSupervisor := { s with retryState } with hdef
    obtain ⟨evaluation, hevaluation, hsays⟩ :=
      recordRecoveryEvaluation_settled (s := ended) isOver.completion hsettled
    refine ⟨{ ended with recoveryEvaluation := some evaluation },
      stop_over answer hdisabled isOver.state hevaluation isOver.completion,
      .settled ⟨isOver.state, isOver.completion, isOver.released⟩ hsettled ⟨evaluation, rfl, hsays⟩, ?_⟩
    exact {
      completion := fun _ hsome => hsome
      leaves := id
      creates := fun _ => by simp [hdef, isOver.state]
      stop := fun _ => ⟨by simp [hdef, isOver.state], hended⟩
      stays := fun _ _ => hended }

/-- An event keeps the invariant. -/
theorem observe_spec (h : s.Lifecycle) (event : StreamEvent) :
    ∃ s', s.call (.observe event) = some s' ∧ s'.Lifecycle ∧ Follows s (.observe event) s' := by
  have hstop : ¬(Call.observe event).IsStop := by
    rintro ⟨_, heq⟩
    cases heq
  refine ⟨s.observe event, rfl, ?_, ?_⟩
  · cases h with
    | idle state callback completion released evaluation fresh =>
      exact .idle state callback completion released evaluation fresh
    | owned wanted state owned =>
      exact .owned wanted state
        ⟨owned.owner, owned.completion, owned.released, owned.evaluation, owned.retryState⟩
    | stoppedBeforeStart isOver evaluation fresh =>
      exact .stoppedBeforeStart ⟨isOver.state, isOver.completion, isOver.released⟩ evaluation fresh
    | settled isOver settled evaluation =>
      exact .settled ⟨isOver.state, isOver.completion, isOver.released⟩ settled evaluation
  · exact {
      completion := fun _ hsome => hsome
      leaves := id
      creates := fun hcreates => by cases hcreates
      stop := fun hc => absurd hc hstop
      stays := fun _ hended => hended }

/-- Every call returns, and keeps the invariant. -/
theorem call_spec (h : s.Lifecycle) {c : Call} (hobeys : c.Obeys) :
    ∃ s', s.call c = some s' ∧ s'.Lifecycle ∧ Follows s c s' := by
  cases c with
  | start answers =>
    by_cases hidle : s.state = .idle
    · cases h with
      | idle state callback completion released evaluation fresh =>
        exact start_spec state callback completion released evaluation fresh hobeys
      | owned wanted state owned =>
        rcases state with state | state <;> rw [hidle] at state <;> cases state
      | stoppedBeforeStart isOver evaluation fresh =>
        rw [isOver.state] at hidle
        cases hidle
      | settled isOver settled evaluation =>
        rw [isOver.state] at hidle
        cases hidle
    · refine ⟨s, start_again hidle, h, .refl ?_ (decide_eq_false hidle)⟩
      rintro ⟨_, heq⟩
      cases heq
  | waitForCompletion answer => exact waitForCompletion_spec h answer
  | stop answer => exact stop_spec h answer
  | observe event => exact observe_spec h event

/-! ## Runs -/

/-- What a list of calls changes. -/
structure FollowsAll (s : CaptureSupervisor) (cs : List Call) (s' : CaptureSupervisor) :
    Prop where
  /-- An outcome stays. -/
  completion : ∀ completion, s.completion = some completion → s'.completion = some completion
  /-- The factory is asked once, and only from the beginning. -/
  creations : s.creations cs ≤ if s.state = .idle then 1 else 0
  /-- An intent that ended before or in the calls has ended. -/
  ended : (∃ c ∈ cs, c.IsStop) ∨ (s.state ≠ .idle ∧ s.desiredRunning = false) →
    s'.state ≠ .idle ∧ s'.desiredRunning = false

/-- Nothing changes without a call. -/
theorem FollowsAll.nil : FollowsAll s [] s where
  completion _ h := h
  creations := Nat.zero_le _
  ended h := by
    rcases h with ⟨c, hmem, -⟩ | h
    · cases hmem
    · exact h

/-- A call before the calls. -/
theorem FollowsAll.cons {c : Call} {cs : List Call} {s₁ s₂ : CaptureSupervisor}
    (hcall : s.call c = some s₁) (h : Follows s c s₁) (hs : FollowsAll s₁ cs s₂) :
    FollowsAll s (c :: cs) s₂ where
  completion completion hsome := hs.completion completion (h.completion completion hsome)
  creations := by
    have hrest := hs.creations
    have hcount : s.creations (c :: cs)
        = (if c.creates s then 1 else 0) + s₁.creations cs := by
      rw [CaptureSupervisor.creations, hcall]
    rw [hcount]
    by_cases hcreates : c.creates s = true
    · have hidle : s.state = .idle := by
        cases c with
        | start answers => exact of_decide_eq_true hcreates
        | _ => cases hcreates
      rw [if_neg (h.creates hcreates)] at hrest
      rw [if_pos hcreates, if_pos hidle]
      omega
    · rw [if_neg hcreates]
      by_cases hidle : s.state = .idle
      · rw [if_pos hidle]
        split at hrest <;> omega
      · rw [if_neg (h.leaves hidle)] at hrest
        rw [if_neg hidle]
        omega
  ended hended := by
    apply hs.ended
    rcases hended with ⟨d, hmem, hstop⟩ | ⟨hidle, hdesired⟩
    · rcases List.mem_cons.mp hmem with rfl | hmem
      · exact .inr (h.stop hstop)
      · exact .inl ⟨d, hmem, hstop⟩
    · exact .inr ⟨h.leaves hidle, h.stays hidle hdesired⟩

/-- Every list of calls returns, and keeps the invariant. -/
theorem calls_spec (h : s.Lifecycle) {cs : List Call} (hobeys : ∀ c ∈ cs, c.Obeys) :
    ∃ s', s.calls cs = some s' ∧ s'.Lifecycle ∧ FollowsAll s cs s' := by
  induction cs generalizing s with
  | nil => exact ⟨s, rfl, h, .nil⟩
  | cons c cs ih =>
    obtain ⟨hc, hcs⟩ := List.forall_mem_cons.mp hobeys
    obtain ⟨s₁, hcall, hlifecycle, hfollows⟩ := call_spec h hc
    obtain ⟨s₂, hcalls, hlifecycle, hall⟩ := ih hlifecycle hcs
    refine ⟨s₂, ?_, hlifecycle, .cons hcall hfollows hall⟩
    calc s.calls (c :: cs)
        = (s.call c).bind (·.calls cs) := rfl
      _ = s₁.calls cs := by rw [hcall]; rfl
      _ = some s₂ := hcalls

/-- The outcome is kept exactly from the end of the lifecycle on. -/
theorem Lifecycle.completed_iff (h : s.Lifecycle) :
    (s.state = .completed ↔ s.completion.isSome) ∧
      (s.completion.isSome ↔ s.resourcesReleased = true) := by
  cases h with
  | idle state callback completion released => simp [state, completion, released]
  | owned wanted state owned =>
    rcases state with state | state <;> simp [state, owned.completion, owned.released]
  | stoppedBeforeStart isOver => simp [isOver.state, isOver.completion, isOver.released]
  | settled isOver => simp [isOver.state, isOver.completion, isOver.released]

/-- There is one attempt. -/
theorem Lifecycle.attemptsStarted_le (h : s.Lifecycle) :
    s.retryState.attemptsStarted.toNat ≤ 1 := by
  have hfresh : RetryState.new retryHistoryCapacity = .ok s.retryState →
      s.retryState.attemptsStarted.toNat ≤ 1 := by
    intro hfresh
    generalize s.retryState = retryState at hfresh
    cases hfresh
    exact Nat.zero_le 1
  cases h with
  | idle state callback completion released evaluation fresh => exact hfresh fresh
  | owned wanted state owned =>
    rw [owned.retryState]
    cases wanted <;> exact Nat.le_refl 1
  | stoppedBeforeStart isOver evaluation fresh => exact hfresh fresh
  | settled isOver settled =>
    rw [settled.attemptsStarted]
    exact Nat.le_refl 1

/-- Where the intent ended, what was evaluated says so. -/
theorem Lifecycle.saysStopped (h : s.Lifecycle) (hended : s.desiredRunning = false)
    {evaluation : RecordedRecoveryEvaluation} (hsome : s.recoveryEvaluation = some evaluation) :
    SaysStopped evaluation := by
  cases h with
  | idle state callback completion released none => rw [none] at hsome; cases hsome
  | owned wanted state owned => rw [owned.evaluation] at hsome; cases hsome
  | stoppedBeforeStart isOver none => rw [none] at hsome; cases hsome
  | settled isOver settled kept =>
    obtain ⟨recorded, hrecorded, hsays⟩ := kept
    rw [hrecorded] at hsome
    cases hsome
    exact hsays hended

/-- The invariant holds of a new supervisor. -/
theorem withFactory_lifecycle : ∃ s, withFactory = some s ∧ s.state = .idle ∧ s.Lifecycle := by
  obtain ⟨configuration, retryState, hnew, hfactory⟩ := withFactory_eq
  exact ⟨_, hfactory, rfl, .idle rfl rfl rfl rfl rfl hnew⟩

/-- Every list of calls on a supervisor returns, whatever the factory and the owner answer within
the contract of their traits. The factory is asked at most once and at most one attempt is started;
the outcome is kept exactly while the lifecycle is over and the resources are released, and never
changes; and once a stop was among the calls, capture is not wanted, no replacement is eligible, and
what was evaluated says that the supervisor was stopped. -/
theorem supervisor_lifecycle (cs : List Call) (hobeys : ∀ c ∈ cs, c.Obeys) :
    ∃ s₀ s, withFactory = some s₀ ∧ s₀.calls cs = some s ∧
      s₀.creations cs ≤ 1 ∧ s.retryState.attemptsStarted.toNat ≤ 1 ∧
      (s.state = .completed ↔ s.completion.isSome) ∧
      (s.completion.isSome ↔ s.resourcesReleased = true) ∧
      (∀ earlier, earlier <+: cs → ∀ s', s₀.calls earlier = some s' →
        ∀ completion, s'.completion = some completion → s.completion = some completion) ∧
      ((∃ c ∈ cs, c.IsStop) → s.desiredRunning = false ∧ s.replacementEligible = false ∧
        ∀ evaluation, s.recoveryEvaluation = some evaluation → SaysStopped evaluation) := by
  obtain ⟨s₀, hfactory, hidle, hlifecycle⟩ := withFactory_lifecycle
  obtain ⟨s, hcalls, hlast, hall⟩ := calls_spec hlifecycle hobeys
  have hcreations := hall.creations
  rw [if_pos hidle] at hcreations
  obtain ⟨hcompleted, hreleased⟩ := hlast.completed_iff
  refine ⟨s₀, s, hfactory, hcalls, hcreations, hlast.attemptsStarted_le, hcompleted, hreleased,
    ?_, ?_⟩
  · rintro earlier ⟨later, rfl⟩ s' hearlier
    -- The outcome of the earlier calls is one of a reached supervisor, from which the rest follows.
    obtain ⟨reached, hreached, hmiddle, -⟩ := calls_spec hlifecycle fun c hc =>
      hobeys c (List.mem_append_left later hc)
    obtain ⟨last, hrest, -, hfollows⟩ := calls_spec hmiddle fun c hc =>
      hobeys c (List.mem_append_right earlier hc)
    cases hreached.symm.trans hearlier
    have hsame : s₀.calls (earlier ++ later) = some last := by
      calc s₀.calls (earlier ++ later)
          = (s₀.calls earlier).bind (·.calls later) := List.foldlM_append
        _ = some last := by rw [hreached]; exact hrest
    cases hsame.symm.trans hcalls
    exact hfollows.completion
  · intro hstop
    obtain ⟨-, hended⟩ := hall.ended (.inl hstop)
    refine ⟨hended, ?_, fun evaluation => hlast.saysStopped hended⟩
    unfold desiredRunning at hended
    unfold replacementEligible
    rw [hended]
    rfl

/-- An owner that runs, emits an event and times out, is stopped, and completes late. -/
theorem supervisor_lifecycle_example :
    ∃ s₀ s, withFactory = some s₀ ∧
      s₀.calls [.start ⟨.ok (), .ok .started, .error ⟨.fromSecs 1⟩⟩,
        .waitForCompletion (.error ⟨.fromSecs 1⟩), .stop (.error ⟨.fromSecs 1⟩),
        .waitForCompletion (.ok .panicked)] = some s ∧ s.desiredRunning = false := by
  obtain ⟨s₀, s, hfactory, hcalls, -, -, -, -, -, hstopped⟩ := supervisor_lifecycle
    [.start ⟨.ok (), .ok .started, .error ⟨.fromSecs 1⟩⟩,
      .waitForCompletion (.error ⟨.fromSecs 1⟩), .stop (.error ⟨.fromSecs 1⟩),
      .waitForCompletion (.ok .panicked)] (by simp [Call.Obeys])
  exact ⟨s₀, s, hfactory, hcalls, (hstopped ⟨.stop (.error ⟨.fromSecs 1⟩), by simp, _, rfl⟩).1⟩

end CaptureSupervisor

end ResonanceSignal
