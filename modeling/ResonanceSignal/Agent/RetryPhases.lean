import ResonanceSignal.Agent.RetryRuns

/-!
# The phases of a wanted intent

The phase, the facts of the current attempt, the cooldown and the exhaustion of the episode are four
fields that describe one situation. `Situation` lists the situations that a wanted intent can be in,
and `Phased` is the invariant that every operation keeps: the state of a wanted intent is in one of
them, and a cooldown is required only for a current attempt that is ready for evaluation. A fact may
come in any order and repeatedly, so the step lemma for facts (`Situation.record`) asks nothing of
the order; it asks that the fact keeps the failure of the attempt and what was ready.

The attempts that hold resources are a history of the run (`Unreleased`), and at most one is ever
open: it is the current attempt (`unreleased_iff`).
-/

namespace ResonanceSignal

/-- What a cooldown that is pending or satisfied requires. -/
def CooldownState.required : CooldownState → Option CooldownRequirement
  | .notRequired => none
  | .pending requirement => some requirement
  | .satisfied requirement _ => some requirement
  | .invalidated _ => none

/-- What the facts of an attempt say of each other, in whatever order they were recorded. -/
structure AttemptState.Consistent (a : AttemptState) : Prop where
  /-- The stream starts after the owner was created. -/
  unstarted : a.lifecycle = .committed ∨ a.lifecycle = .ownerCreated → a.streamStarted = false
  /-- A terminal event is one of a stream that started. -/
  terminal : a.terminalEventDelivered → a.streamStarted
  /-- An attempt that failed is failed until it is cleaned up. -/
  failed : a.failure.isSome → a.lifecycle = .failed ∨ a.lifecycle = .cleanupComplete

/-- An attempt that is neither failed nor cleaned up did not fail. -/
theorem AttemptState.Consistent.failure_none {a : AttemptState} (h : a.Consistent)
    (hlifecycle : ¬(a.lifecycle = .failed ∨ a.lifecycle = .cleanupComplete)) :
    a.failure = none := by
  cases hfailure : a.failure with
  | none => rfl
  | some cause => exact absurd (h.failed (by rw [hfailure]; rfl)) hlifecycle

/-- An attempt that did not fail is not ready for evaluation. -/
theorem AttemptState.unready_of_failure_none {a : AttemptState} (h : a.failure = none) :
    a.readyForEvaluation = false := by
  simp [readyForEvaluation, h]

/-- An attempt that is ready for evaluation failed and released its resources. -/
theorem AttemptState.of_ready {a : AttemptState} (h : a.readyForEvaluation = true) :
    a.failure.isSome ∧ a.resourcesReleased ∧ (a.streamStarted → a.terminalEventDelivered) := by
  simp only [readyForEvaluation, Bool.and_eq_true, Bool.or_eq_true, Bool.not_eq_true'] at h
  obtain ⟨⟨hfailure, hreleased⟩, hterminal⟩ := h
  refine ⟨hfailure, hreleased, fun hstarted => ?_⟩
  rcases hterminal with hunstarted | hdelivered
  · rw [hunstarted] at hstarted
    cases hstarted
  · exact hdelivered

namespace RetryState

variable {historyCapacity : ℕ}

/-- The exhaustion of the current episode. -/
def exhaustion (s : RetryState historyCapacity) : Option ExhaustionRecord :=
  s.recoveryEpisode.bind RecoveryEpisodeState.exhaustion

/-! ## What the checks let pass -/

section Checks

variable {s s' : RetryState historyCapacity}

/-- A start finds no wanted intent and no attempt that holds resources, and its intent is wanted. -/
theorem explicitStart_passes {configurationId : RecoveryConfigurationIdentity}
    {generation : IntentGeneration} (h : s.explicitStart configurationId = .ok (generation, s')) :
    s.desiredRunning = false ∧ (∀ a, s.currentAttempt = some a → a.resourcesReleased = true) ∧
      s'.desiredRunning = true := by
  unfold explicitStart at h
  obtain ⟨_, hdesired, h⟩ := Result.bind_eq_ok.mp h
  obtain ⟨_, hreleased, h⟩ := Result.bind_eq_ok.mp h
  obtain ⟨next, -, h⟩ := Result.bind_eq_ok.mp h
  cases h
  refine ⟨by simpa using failIf_eq_ok.mp hdesired, ?_, rfl⟩
  intro a ha
  simpa [ha] using failIf_eq_ok.mp hreleased

/-- A stop is of the current generation. -/
theorem explicitStop_passes {generation : IntentGeneration}
    (h : s.explicitStop generation = .ok s') : s.intentGeneration = some generation := by
  unfold explicitStop at h
  obtain ⟨_, hgeneration, -⟩ := Result.bind_eq_ok.mp h
  exact requireGeneration_ok hgeneration

/-- The initial attempt is one of a wanted intent. -/
theorem commitInitialAttempt_passes {generation : IntentGeneration} {id : AttemptId}
    (h : s.commitInitialAttempt generation = .ok (id, s')) : s.desiredRunning = true := by
  unfold commitInitialAttempt at h
  obtain ⟨_, -, h⟩ := Result.bind_eq_ok.mp h
  obtain ⟨_, hphase, h⟩ := Result.bind_eq_ok.mp h
  have hphase := failIf_eq_ok.mp hphase
  simp only [Bool.or_eq_true, not_or, Bool.not_eq_true', Bool.not_eq_false] at hphase
  exact hphase.1

/-- An automatic attempt is one of a wanted intent whose episode is not exhausted. -/
theorem commitRecoveryAttempt_passes {authorization : RecoveryAuthorization} {id : AttemptId}
    (h : s.commitRecoveryAttempt authorization = .ok (id, s')) :
    s.desiredRunning = true ∧ s.exhaustion = none := by
  unfold commitRecoveryAttempt at h
  obtain ⟨_, -, h⟩ := Result.bind_eq_ok.mp h
  obtain ⟨_, hopen, h⟩ := Result.bind_eq_ok.mp h
  obtain ⟨attempt, -, h⟩ := Result.bind_eq_ok.mp h
  obtain ⟨_, -, h⟩ := Result.bind_eq_ok.mp h
  obtain ⟨_, -, h⟩ := Result.bind_eq_ok.mp h
  obtain ⟨_, hphase, h⟩ := Result.bind_eq_ok.mp h
  have hphase := failIf_eq_ok.mp hphase
  simp only [Bool.or_eq_true, not_or, Bool.not_eq_true', Bool.not_eq_false] at hphase
  refine ⟨hphase.1, ?_⟩
  have hopen := failIf_eq_ok.mp hopen
  unfold exhaustion
  cases hepisode : s.recoveryEpisode with
  | none => rfl
  | some episode => simpa [hepisode] using hopen

/-- A cooldown is required in the waiting phase. -/
theorem requireCooldown_passes {evaluated : RetrySnapshot} {marker : CooldownEligibilityMarker}
    (h : s.requireCooldown evaluated marker = .ok s') : s.phase = .waiting := by
  unfold requireCooldown at h
  obtain ⟨_, -, h⟩ := Result.bind_eq_ok.mp h
  obtain ⟨_, hphase, -⟩ := Result.bind_eq_ok.mp h
  exact not_not.mp (failIf_eq_ok.mp hphase)

/-- An episode begins on evidence that the phase accepts. -/
theorem advanceRecoveryEpisode_passes {generation : IntentGeneration}
    {evidence : RecoveryEpisodeResetEvidence} {id : RecoveryEpisodeId}
    (h : s.advanceRecoveryEpisode generation evidence = .ok (id, s')) :
    acceptsReset s.phase evidence = true := by
  unfold advanceRecoveryEpisode at h
  obtain ⟨_, -, h⟩ := Result.bind_eq_ok.mp h
  obtain ⟨_, haccepts, -⟩ := Result.bind_eq_ok.mp h
  simpa using failIf_eq_ok.mp haccepts

end Checks

/-! ## The refresh after a fact -/

section Refresh

variable {s : RetryState historyCapacity} {a : AttemptState}

/-- The refresh waits once a failed attempt is ready for evaluation. -/
theorem refresh_of_ready (hdesired : s.desiredRunning = true) (hphase : s.phase ≠ .exhausted)
    (ha : s.currentAttempt = some a) (hready : a.readyForEvaluation = true) :
    s.refreshPostFailurePhase = { s with
      phase := .waiting
      currentAttempt := some { a with lifecycle := .cleanupComplete } } := by
  unfold refreshPostFailurePhase
  simp [hdesired, hphase, ha, hready]

/-- The refresh keeps an attempt that is not ready for evaluation. -/
theorem refresh_of_unready (ha : s.currentAttempt = some a)
    (hready : a.readyForEvaluation = false) : s.refreshPostFailurePhase = s := by
  unfold refreshPostFailurePhase
  simp [ha, hready]

/-- The refresh keeps an exhausted intent. -/
theorem refresh_of_exhausted (hphase : s.phase = .exhausted) : s.refreshPostFailurePhase = s := by
  unfold refreshPostFailurePhase
  simp [hphase]

/-- The refresh keeps an intent that is not wanted. -/
theorem refresh_of_unwanted (hdesired : s.desiredRunning = false) :
    s.refreshPostFailurePhase = s := by
  unfold refreshPostFailurePhase
  simp [hdesired]

end Refresh

/-! ## The situations of a wanted intent -/

section Situations

variable {s s' : RetryState historyCapacity} {a b : AttemptState}

/-- The situations that a wanted intent can be in. -/
inductive Situation (s : RetryState historyCapacity) : Prop
  /-- No attempt was committed yet. -/
  | idle (phase : s.phase = .idle) (attempt : s.currentAttempt = none)
      (episode : s.exhaustion = none)
  /-- The current attempt did not fail. -/
  | alive (a : AttemptState) (phase : s.phase = .attempting ∨ s.phase = .running)
      (attempt : s.currentAttempt = some a) (failure : a.failure = none)
      (episode : s.exhaustion = none)
  /-- The current attempt failed, and is not ready for evaluation. -/
  | failed (a : AttemptState) (phase : s.phase = .failed) (attempt : s.currentAttempt = some a)
      (failure : a.failure.isSome = true) (unready : a.readyForEvaluation = false)
      (episode : s.exhaustion = none)
  /-- The current attempt is ready for evaluation. -/
  | waiting (a : AttemptState) (phase : s.phase = .waiting) (attempt : s.currentAttempt = some a)
      (ready : a.readyForEvaluation = true) (episode : s.exhaustion = none)
  /-- The current attempt was evaluated, and the episode is exhausted. -/
  | exhausted (a : AttemptState) (phase : s.phase = .exhausted)
      (attempt : s.currentAttempt = some a) (ready : a.readyForEvaluation = true)
      (episode : s.exhaustion.isSome = true)

/-- An attempt that did not fail is alive. -/
theorem Situation.of_failure_none (h : Situation s) (ha : s.currentAttempt = some a)
    (hfailure : a.failure = none) :
    (s.phase = .attempting ∨ s.phase = .running) ∧ s.exhaustion = none := by
  -- In every other situation there is no attempt, or it failed.
  have hcontra : ∀ b, s.currentAttempt = some b → b.failure.isSome = true → False := by
    intro b hb hfailed
    rw [ha, Option.some.injEq] at hb
    rw [← hb, hfailure] at hfailed
    cases hfailed
  cases h with
  | idle phase attempt episode =>
    rw [ha] at attempt
    cases attempt
  | alive b phase attempt failure episode => exact ⟨phase, episode⟩
  | failed b phase attempt failure unready episode => exact absurd failure (hcontra b attempt)
  | waiting b phase attempt ready episode =>
    exact absurd (AttemptState.of_ready ready).1 (hcontra b attempt)
  | exhausted b phase attempt ready episode =>
    exact absurd (AttemptState.of_ready ready).1 (hcontra b attempt)

/-- In the waiting phase the attempt is ready, and the episode is not exhausted. -/
theorem Situation.of_waiting (h : Situation s) (hphase : s.phase = .waiting) :
    s.exhaustion = none ∧ ∃ a, s.currentAttempt = some a ∧ a.readyForEvaluation = true := by
  cases h with
  | idle phase attempt episode => simp [phase] at hphase
  | alive a phase attempt failure episode => simp [hphase] at phase
  | failed a phase attempt failure unready episode => simp [phase] at hphase
  | waiting a phase attempt ready episode => exact ⟨episode, a, attempt, ready⟩
  | exhausted a phase attempt ready episode => simp [phase] at hphase

/-- A failed attempt that is ready for evaluation is refreshed to the waiting situation. -/
theorem Situation.of_ready (hdesired : s.desiredRunning = true) (hphase : s.phase ≠ .exhausted)
    (ha : s.currentAttempt = some a) (hready : a.readyForEvaluation = true)
    (hepisode : s.exhaustion = none) : Situation s.refreshPostFailurePhase := by
  rw [refresh_of_ready hdesired hphase ha hready]
  exact .waiting _ rfl rfl hready hepisode

/-- An exhausted intent is refreshed to itself. -/
theorem Situation.of_exhausted (hphase : s.phase = .exhausted) (ha : s.currentAttempt = some a)
    (hready : a.readyForEvaluation = true) (hepisode : s.exhaustion.isSome = true) :
    Situation s.refreshPostFailurePhase := by
  rw [refresh_of_exhausted hphase]
  exact .exhausted a hphase ha hready hepisode

/-- A situation depends on the phase, the attempt and the exhaustion only. -/
theorem Situation.congr (h : Situation s) (hphase : s'.phase = s.phase)
    (hattempt : s'.currentAttempt = s.currentAttempt) (hepisode : s'.exhaustion = s.exhaustion) :
    Situation s' := by
  cases h with
  | idle phase attempt episode =>
    exact .idle (hphase.trans phase) (hattempt.trans attempt) (hepisode.trans episode)
  | alive a phase attempt failure episode =>
    exact .alive a (hphase ▸ phase) (hattempt.trans attempt) failure (hepisode.trans episode)
  | failed a phase attempt failure unready episode =>
    exact .failed a (hphase.trans phase) (hattempt.trans attempt) failure unready
      (hepisode.trans episode)
  | waiting a phase attempt ready episode =>
    exact .waiting a (hphase.trans phase) (hattempt.trans attempt) ready (hepisode.trans episode)
  | exhausted a phase attempt ready episode =>
    exact .exhausted a (hphase.trans phase) (hattempt.trans attempt) ready (hepisode ▸ episode)

/-- The next episode is not exhausted, and an exhausted intent waits again. -/
theorem Situation.advance (h : Situation s)
    (hphase : s'.phase = if s.phase = .exhausted then .waiting else s.phase)
    (hattempt : s'.currentAttempt = s.currentAttempt) (hepisode : s'.exhaustion = none) :
    Situation s' := by
  cases h with
  | idle phase attempt episode =>
    exact .idle (by simp [hphase, phase]) (hattempt.trans attempt) hepisode
  | alive a phase attempt failure episode =>
    have hsame : s'.phase = s.phase := by
      rw [hphase, if_neg]
      rintro hexhausted
      simp [hexhausted] at phase
    exact .alive a (hsame ▸ phase) (hattempt.trans attempt) failure hepisode
  | failed a phase attempt failure unready episode =>
    exact .failed a (by simp [hphase, phase]) (hattempt.trans attempt) failure unready hepisode
  | waiting a phase attempt ready episode =>
    exact .waiting a (by simp [hphase, phase]) (hattempt.trans attempt) ready hepisode
  | exhausted a phase attempt ready episode =>
    exact .waiting a (by simp [hphase, phase]) (hattempt.trans attempt) ready hepisode

/-- A failure that was recorded is refreshed to a situation. -/
theorem Situation.of_failed (hdesired : s.desiredRunning = true) (hphase : s.phase = .failed)
    (ha : s.currentAttempt = some a) (hfailure : a.failure.isSome = true)
    (hepisode : s.exhaustion = none) : Situation s.refreshPostFailurePhase := by
  cases hready : a.readyForEvaluation with
  | false =>
    rw [refresh_of_unready ha hready]
    exact .failed a hphase ha hfailure hready hepisode
  | true => exact .of_ready hdesired (by simp [hphase]) ha hready hepisode

/-- A fact that keeps the failure of the attempt, and what was ready, leads to a situation. -/
theorem Situation.record {revision : StateRevision} (h : Situation s)
    (hdesired : s.desiredRunning = true) (ha : s.currentAttempt = some a)
    (hfailure : b.failure = a.failure)
    (hready : a.readyForEvaluation = true → b.readyForEvaluation = true) :
    Situation (refreshPostFailurePhase ({ s with
      currentAttempt := some b
      stateRevision := revision } : RetryState historyCapacity)) := by
  have hsame : ∀ c, s.currentAttempt = some c → c = a := by
    intro c hc
    rw [ha, Option.some.injEq] at hc
    exact hc.symm
  cases h with
  | idle phase attempt episode =>
    rw [ha] at attempt
    cases attempt
  | alive c phase attempt failure episode =>
    obtain rfl := hsame c attempt
    -- An attempt without a failure is not evaluated, so its phase stays.
    have hnone : b.failure = none := hfailure.trans failure
    rw [refresh_of_unready rfl (AttemptState.unready_of_failure_none hnone)]
    exact .alive b phase rfl hnone episode
  | failed c phase attempt failure unready episode =>
    obtain rfl := hsame c attempt
    -- This fact may make a failed attempt ready for evaluation.
    exact .of_failed hdesired phase rfl (hfailure ▸ failure) episode
  | waiting c phase attempt ready episode =>
    obtain rfl := hsame c attempt
    exact .of_ready hdesired (by simp [phase]) rfl (hready ready) episode
  | exhausted c phase attempt ready episode =>
    obtain rfl := hsame c attempt
    exact .of_exhausted phase rfl (hready ready) episode

end Situations

/-! ## The invariant of every run -/

section Invariant

variable {s s' : RetryState historyCapacity} {a b : AttemptState}

/-- The invariant of the phases. -/
structure Phased (s : RetryState historyCapacity) : Prop where
  /-- The facts of the current attempt agree. -/
  attempt : ∀ a, s.currentAttempt = some a → a.Consistent
  /-- A wanted intent is in one of the situations. -/
  situation : s.desiredRunning = true → Situation s
  /-- An intent that is not wanted was never started, or is stopped. -/
  unwanted : s.desiredRunning = false → s.phase = .idle ∨ s.phase = .stopped
  /-- A cooldown is required for the current attempt, after it was evaluated. -/
  cooldown : ∀ requirement, s.cooldown.required = some requirement →
    s.attemptId = some requirement.attemptId ∧ (s.phase = .waiting ∨ s.phase = .exhausted)

/-- A fresh state has no intent. -/
theorem Phased.new (h : RetryState.new historyCapacity = .ok s) : s.Phased := by
  obtain rfl := eq_of_new h
  constructor
  case attempt => intro a ha; cases ha
  case situation => intro hdesired; cases hdesired
  case unwanted => exact fun _ => .inl rfl
  case cooldown => intro requirement hrequired; cases hrequired

/-- The current attempt is consistent after a refresh. -/
theorem consistent_refresh (h : ∀ a, s.currentAttempt = some a → a.Consistent) :
    ∀ a, s.refreshPostFailurePhase.currentAttempt = some a → a.Consistent := by
  rcases s.refreshPostFailurePhase_eq with heq | ⟨a, ha, -, heq⟩
  · rw [heq]
    exact h
  · rw [heq]
    rintro _ ⟨⟩
    have hconsistent := h a ha
    exact ⟨by simp, hconsistent.terminal, fun _ => .inr rfl⟩

/-- A cooldown that is required stays so after a refresh. -/
theorem required_refresh {requirement : CooldownRequirement}
    (h : s.attemptId = some requirement.attemptId ∧ (s.phase = .waiting ∨ s.phase = .exhausted)) :
    s.refreshPostFailurePhase.attemptId = some requirement.attemptId ∧
      (s.refreshPostFailurePhase.phase = .waiting ∨
        s.refreshPostFailurePhase.phase = .exhausted) := by
  rcases s.refreshPostFailurePhase_eq with heq | ⟨a, ha, -, heq⟩
  · rw [heq]
    exact h
  · rw [heq]
    refine ⟨?_, .inl rfl⟩
    rw [← h.1]
    simp [attemptId, ha]

/-- The refresh keeps the cooldown. -/
@[simp]
theorem cooldown_refresh (s : RetryState historyCapacity) :
    s.refreshPostFailurePhase.cooldown = s.cooldown := by
  rcases s.refreshPostFailurePhase_eq with heq | ⟨a, -, -, heq⟩ <;> rw [heq]

/-- The refresh keeps whether the intent is wanted. -/
@[simp]
theorem desiredRunning_refresh (s : RetryState historyCapacity) :
    s.refreshPostFailurePhase.desiredRunning = s.desiredRunning := by
  rcases s.refreshPostFailurePhase_eq with heq | ⟨a, -, -, heq⟩ <;> rw [heq]

/-- No cooldown is required where the current attempt is not cleaned up. -/
theorem Phased.cooldown_none (h : s.Phased) (hs : s.Coherent) (ha : s.currentAttempt = some a)
    (hlifecycle : a.lifecycle ≠ .cleanupComplete) : s.cooldown.required = none := by
  cases hrequired : s.cooldown.required with
  | none => rfl
  | some requirement =>
    exact absurd (h.cooldown requirement hrequired).2 (hs.unsettled ha hlifecycle)

/-- The refresh keeps the phase of an intent that is not wanted. -/
theorem unwanted_refresh (h : s.desiredRunning = false → s.phase = .idle ∨ s.phase = .stopped)
    (hdesired : s.refreshPostFailurePhase.desiredRunning = false) :
    s.refreshPostFailurePhase.phase = .idle ∨ s.refreshPostFailurePhase.phase = .stopped := by
  rw [desiredRunning_refresh] at hdesired
  rw [refresh_of_unwanted hdesired]
  exact h hdesired

/-- A committed attempt keeps the invariant. -/
theorem Phased.commitAttempt {kind : AttemptKind} {id : AttemptId}
    (hdesired : s.desiredRunning = true) (hopen : s.exhaustion = none)
    (hop : s.commitAttempt kind = .ok (id, s')) : s'.Phased := by
  obtain ⟨-, -, episode, attemptsStarted, revision, hepisode, rfl⟩ := commitAttempt_ok hop
  have hexhaustion : episode.bind RecoveryEpisodeState.exhaustion = none := by
    cases kind with
    | explicitStart =>
      cases hepisode
      exact hopen
    | automaticRecovery =>
      unfold episodeAfter at hepisode
      obtain ⟨previous, hprevious, hepisode⟩ := Result.bind_eq_ok.mp hepisode
      obtain ⟨started, -, hepisode⟩ := Result.bind_eq_ok.mp hepisode
      cases hepisode
      rw [exhaustion, okOr_eq_ok.mp hprevious] at hopen
      exact hopen
  refine ⟨?_, fun _ => .alive _ (.inl rfl) rfl rfl hexhaustion, fun hunwanted => ?_, nofun⟩
  · rintro _ ⟨⟩
    exact ⟨fun _ => rfl, nofun, nofun⟩
  · cases hdesired.symm.trans hunwanted

/-- A fact about an attempt that did not fail keeps the invariant, where the phase is one of an
attempt that is alive. -/
theorem Phased.recordAlive {revision : StateRevision} {phase : RetryPhase} (h : s.Phased)
    (hs : s.Coherent) (ha : s.currentAttempt = some a) (hlifecycle : a.lifecycle ≠ .cleanupComplete)
    (hfailure : a.failure = none) (hb : b.Consistent) (hb' : b.failure = none)
    (hphase : phase = s.phase ∨ (s.desiredRunning = true ∧ phase = .running)) :
    Phased ({ s with
      currentAttempt := some b
      phase := phase
      stateRevision := revision } : RetryState historyCapacity) := by
  refine ⟨?_, fun hdesired => ?_, fun hunwanted => ?_, fun requirement hrequired => ?_⟩
  · rintro _ ⟨⟩
    exact hb
  · obtain ⟨halive, hepisode⟩ := (h.situation hdesired).of_failure_none ha hfailure
    have hphase : phase = .attempting ∨ phase = .running := by
      rcases hphase with rfl | ⟨-, rfl⟩
      · exact halive
      · exact .inr rfl
    exact .alive b hphase rfl hb' hepisode
  · rcases hphase with rfl | ⟨hdesired, -⟩
    · exact h.unwanted hunwanted
    · cases hdesired.symm.trans hunwanted
  · have hnone : s.cooldown.required = none := h.cooldown_none hs ha hlifecycle
    rw [hnone] at hrequired
    cases hrequired

/-- A fact that keeps the failure of the attempt, and what was ready, keeps the invariant. -/
theorem Phased.record {revision : StateRevision} (h : s.Phased) (ha : s.currentAttempt = some a)
    (hid : b.id = a.id) (hb : b.Consistent) (hfailure : b.failure = a.failure)
    (hready : a.readyForEvaluation = true → b.readyForEvaluation = true) :
    Phased (refreshPostFailurePhase ({ s with
      currentAttempt := some b
      stateRevision := revision } : RetryState historyCapacity)) := by
  refine ⟨consistent_refresh ?_, fun hdesired => ?_, unwanted_refresh h.unwanted,
    fun requirement hrequired => ?_⟩
  · rintro _ ⟨⟩
    exact hb
  · rw [desiredRunning_refresh] at hdesired
    exact (h.situation hdesired).record hdesired ha hfailure hready
  · rw [cooldown_refresh] at hrequired
    obtain ⟨hnamed, hphase⟩ := h.cooldown requirement hrequired
    refine required_refresh ⟨?_, hphase⟩
    rw [← hnamed]
    simp [attemptId, ha, hid]

/-- A recorded failure keeps the invariant. -/
theorem Phased.recordFailure {attemptId : AttemptId} {cause : RetryFailureCause} (h : s.Phased)
    (hs : s.Coherent) (hop : s.recordFailure attemptId cause = .ok s') : s'.Phased := by
  obtain ⟨a, episode, totals, consecutive, revision, ha, -, hfailure, hlifecycle, hepisode, -, -,
    rfl⟩ := recordFailure_ok hop
  have hunclean : a.lifecycle ≠ .cleanupComplete := by
    rintro hc
    simp [hc] at hlifecycle
  have hconsistent := h.attempt a ha
  refine ⟨consistent_refresh ?_, fun hdesired => ?_, unwanted_refresh fun hunwanted => ?_,
    fun requirement hrequired => ?_⟩
  · rintro _ ⟨⟩
    exact ⟨by simp, hconsistent.terminal, fun _ => .inl rfl⟩
  · rw [desiredRunning_refresh] at hdesired
    have hdesired : s.desiredRunning = true := hdesired
    obtain ⟨-, hopen⟩ := (h.situation hdesired).of_failure_none ha hfailure
    -- The failure stays in the current episode, or opens one that is not exhausted.
    have hexhaustion : episode.exhaustion = none := by
      unfold failureEpisode at hepisode
      unfold exhaustion at hopen
      cases hcurrent : s.recoveryEpisode with
      | some current =>
        rw [hcurrent] at hepisode hopen
        cases hepisode
        exact hopen
      | none =>
        rw [hcurrent] at hepisode
        obtain ⟨generation, -, hepisode⟩ := Result.bind_eq_ok.mp hepisode
        cases hepisode
        rfl
    exact .of_failed hdesired (if_pos hdesired) rfl rfl hexhaustion
  · have hunwanted : s.desiredRunning = false := hunwanted
    show (if s.desiredRunning then RetryPhase.failed else s.phase) = .idle ∨ _ = RetryPhase.stopped
    rw [if_neg (by simp [hunwanted])]
    exact h.unwanted hunwanted
  · rw [cooldown_refresh] at hrequired
    have hnone : s.cooldown.required = none := h.cooldown_none hs ha hunclean
    rw [hnone] at hrequired
    cases hrequired

/-- What a release makes of an attempt is consistent. -/
theorem consistent_releasedAttempt (h : a.Consistent) (desiredRunning : Bool) :
    (releasedAttempt a desiredRunning).Consistent := by
  have hlifecycle : (releasedAttempt a desiredRunning).lifecycle = a.lifecycle ∨
      (releasedAttempt a desiredRunning).lifecycle = .cleanupComplete := by
    unfold releasedAttempt
    dsimp only
    split_ifs <;> simp
  refine ⟨fun hearly => ?_, h.terminal, fun hfailed => ?_⟩
  · rcases hlifecycle with hsame | hclean
    · rw [hsame] at hearly
      exact h.unstarted hearly
    · simp [hclean] at hearly
  · rcases hlifecycle with hsame | hclean
    · rw [hsame]
      exact h.failed hfailed
    · exact .inr hclean

/-- An attempt that is ready for evaluation stays so when its resources are released again. -/
theorem ready_releasedAttempt (desiredRunning : Bool) (h : a.readyForEvaluation = true) :
    (releasedAttempt a desiredRunning).readyForEvaluation = true := by
  simp only [AttemptState.readyForEvaluation, Bool.and_eq_true, Bool.or_eq_true,
    Bool.not_eq_true'] at h
  simp [releasedAttempt, AttemptState.readyForEvaluation, h.1.1, h.2]

/-- An attempt that is ready for evaluation stays so when its terminal event is delivered again. -/
theorem ready_delivered (h : a.readyForEvaluation = true) :
    AttemptState.readyForEvaluation { a with terminalEventDelivered := true } = true := by
  simp only [AttemptState.readyForEvaluation, Bool.and_eq_true] at h
  simp [AttemptState.readyForEvaluation, h.1]

/-- Every operation keeps the invariant. -/
theorem Phased.perform (h : s.Phased) (hs : s.Coherent) {operation : Operation} {output : Output}
    (hop : s.perform operation = .ok (output, s')) : s'.Phased := by
  cases Performs.of_perform hop with
  | explicitStart configurationId generation ht =>
    obtain ⟨-, -, -, hphase, hattempt, hepisode, hcooldown⟩ := explicitStart_ok ht
    have hopen : s'.exhaustion = none := by simp [exhaustion, hepisode]
    exact ⟨by simp [hattempt], fun _ => .idle hphase hattempt hopen, fun _ => .inl hphase,
      by simp [hcooldown, CooldownState.required]⟩
  | explicitStop generation ht =>
    obtain ⟨-, revision, rfl⟩ := explicitStop_ok ht
    refine ⟨h.attempt, fun hdesired => absurd hdesired Bool.false_ne_true, fun _ => .inr rfl,
      fun requirement hrequired => ?_⟩
    -- A stop invalidates what is required.
    have hnone : s.cooldown.invalidate.required = none := by
      cases s.cooldown <;> rfl
    rw [hnone] at hrequired
    cases hrequired
  | commitInitialAttempt generation id ht =>
    obtain ⟨hphase, hcommit⟩ := commitInitialAttempt_ok ht
    have hdesired := commitInitialAttempt_passes ht
    have hsituation := h.situation hdesired
    have hopen : s.exhaustion = none := by
      cases hsituation with
      | idle phase attempt episode => exact episode
      | alive a phase attempt failure episode => exact episode
      | failed a phase attempt failure unready episode => exact episode
      | waiting a phase attempt ready episode => exact episode
      | exhausted a phase attempt ready episode => simp [phase] at hphase
    exact .commitAttempt hdesired hopen hcommit
  | commitRecoveryAttempt authorization id ht =>
    obtain ⟨hdesired, hopen⟩ := commitRecoveryAttempt_passes ht
    exact .commitAttempt hdesired hopen (commitRecoveryAttempt_ok ht).2.2.2.2
  | recordOwnerCreated attemptId ht =>
    obtain ⟨-, a, revision, ha, -, hlifecycle, rfl⟩ := recordOwnerCreated_ok ht
    have hconsistent := h.attempt a ha
    have hfailure : a.failure = none := hconsistent.failure_none (by simp [hlifecycle])
    have hunstarted := hconsistent.unstarted (.inl hlifecycle)
    exact h.recordAlive hs ha (by simp [hlifecycle]) hfailure
      ⟨fun _ => hunstarted, hconsistent.terminal, by simp [hfailure]⟩ hfailure (.inl rfl)
  | recordStreamStarted attemptId ht =>
    obtain ⟨-, a, revision, ha, -, hlifecycle, rfl⟩ := recordStreamStarted_ok ht
    have hconsistent := h.attempt a ha
    have hfailure : a.failure = none := hconsistent.failure_none (by simp [hlifecycle])
    refine h.recordAlive hs ha (by simp [hlifecycle]) hfailure
      ⟨by simp, fun _ => rfl, by simp [hfailure]⟩ hfailure ?_
    split_ifs with hdesired
    · exact .inr ⟨hdesired, rfl⟩
    · exact .inl rfl
  | recordNormalCompletion attemptId ht =>
    obtain ⟨-, a, revision, ha, -, hfailure, hlifecycle, rfl⟩ := recordNormalCompletion_ok ht
    have hconsistent := h.attempt a ha
    have hunclean : a.lifecycle ≠ .cleanupComplete := by
      rintro hc
      simp [hc] at hlifecycle
    exact h.recordAlive hs ha hunclean hfailure
      ⟨by simp, hconsistent.terminal, by simp [hfailure]⟩ hfailure (.inl rfl)
  | recordFailure attemptId cause ht =>
    exact h.recordFailure hs ht
  | recordTerminalEventDelivered attemptId ht =>
    obtain ⟨a, revision, ha, -, hstarted, -, -, rfl⟩ := recordTerminalEventDelivered_ok ht
    have hconsistent := h.attempt a ha
    exact h.record ha rfl ⟨hconsistent.unstarted, fun _ => hstarted, hconsistent.failed⟩ rfl
      ready_delivered
  | recordCleanupComplete attemptId ht =>
    obtain ⟨a, revision, ha, -, -, rfl⟩ := recordCleanupComplete_ok ht
    exact h.record ha rfl (consistent_releasedAttempt (h.attempt a ha) _) rfl
      (ready_releasedAttempt _)
  | requireCooldown evaluated marker ht =>
    have hphase := requireCooldown_passes ht
    obtain ⟨-, -, a, revision, ha, rfl⟩ := requireCooldown_ok ht
    refine ⟨h.attempt, fun hdesired => (h.situation hdesired).congr rfl rfl rfl, h.unwanted, ?_⟩
    rintro _ ⟨⟩
    exact ⟨by simp [attemptId, ha], .inl hphase⟩
  | satisfyCooldown generation marker evidence ht =>
    obtain ⟨-, -, requirement, revision, hpending, -, rfl⟩ := satisfyCooldown_ok ht
    refine ⟨h.attempt, fun hdesired => (h.situation hdesired).congr rfl rfl rfl, h.unwanted, ?_⟩
    rintro _ ⟨⟩
    exact h.cooldown requirement (by rw [hpending]; rfl)
  | markExhausted evaluated reason ht =>
    obtain ⟨-, hphase, episode, exhaustion, revision, hepisode, rfl⟩ := markExhausted_ok ht
    refine ⟨h.attempt, fun hdesired => ?_, fun hunwanted => ?_, fun requirement hrequired => ?_⟩
    · obtain ⟨-, a, ha, hready⟩ := (h.situation hdesired).of_waiting hphase
      exact .exhausted a rfl ha hready rfl
    · have hsettled := h.unwanted hunwanted
      simp [hphase] at hsettled
    · exact ⟨(h.cooldown requirement hrequired).1, .inr rfl⟩
  | advanceRecoveryEpisode generation evidence id ht =>
    obtain ⟨-, -, -, -, revision, rfl⟩ := advanceRecoveryEpisode_ok ht
    refine ⟨h.attempt, fun hdesired => (h.situation hdesired).advance rfl rfl rfl,
      fun hunwanted => ?_, fun requirement hrequired => ?_⟩
    · rcases h.unwanted hunwanted with hphase | hphase <;> simp [hphase]
    · cases hrequired
  | snapshot _ _ => exact h

/-- Every run from a fresh state keeps the phases in step with the facts. -/
theorem Phased.of_run {s₀ : RetryState historyCapacity} {events : List Event}
    (hnew : RetryState.new historyCapacity = .ok s₀)
    (hrun : (operations historyCapacity).Run s₀ events s) : s.Phased := by
  refine TransitionSystem.Run.history (I := fun _ s => s.Phased) (Phased.new hnew) ?_ hrun
  intro events t e t' hevents h hstep
  obtain ⟨operation, outcome⟩ := e
  rw [operations_step] at hstep
  cases outcome with
  | ok output => exact h.perform (Coherent.of_run hnew hevents) (apply_eq_ok.mp hstep)
  | error e => exact eq_of_apply_error hstep ▸ h

end Invariant

/-! ## The attempts that hold resources -/

section Unreleased

variable {s s' : RetryState historyCapacity} {events : List Event} {e : Event}

/-- An attempt was committed, and no release of its resources was recorded since. -/
def Unreleased (events : List Event) (id : AttemptId) : Prop :=
  ∃ before e after, events = before ++ e :: after ∧ committedBy e = some id ∧
    ∀ e' ∈ after, e' ≠ (.recordCleanupComplete id, .ok .done)

/-- One more event commits an attempt, or keeps one unless it releases it. -/
theorem unreleased_snoc {id : AttemptId} : Unreleased (events ++ [e]) id ↔
    committedBy e = some id ∨
      (Unreleased events id ∧ e ≠ (.recordCleanupComplete id, .ok .done)) := by
  constructor
  · rintro ⟨before, first, after, heq, hcommits, hkeeps⟩
    -- Either the last event commits the attempt, or it came after the commit.
    rcases List.eq_nil_or_concat after with rfl | ⟨after', last, rfl⟩
    · obtain ⟨-, hlast⟩ := List.append_inj' heq rfl
      cases hlast
      exact .inl hcommits
    · rw [List.concat_eq_append, ← List.cons_append, ← List.append_assoc] at heq
      obtain ⟨hevents, hlast⟩ := List.append_inj' heq rfl
      cases hlast
      refine .inr ⟨⟨before, first, after', hevents, hcommits, fun e' he' => ?_⟩, ?_⟩
      · exact hkeeps e' (by simp [he'])
      · exact hkeeps e (by simp)
  · rintro (hcommits | ⟨⟨before, first, after, rfl, hcommits, hkeeps⟩, hlast⟩)
    · exact ⟨events, e, [], rfl, hcommits, by simp⟩
    · refine ⟨before, first, after ++ [e], by simp, hcommits, fun e' he' => ?_⟩
      rcases List.mem_append.mp he' with hafter | hlast'
      · exact hkeeps e' hafter
      · rw [List.mem_singleton.mp hlast']
        exact hlast

/-- The attempt that holds resources. -/
def holding (s : RetryState historyCapacity) : Option AttemptId :=
  s.currentAttempt.bind fun a => if a.resourcesReleased then none else some a.id

/-- The attempt that holds resources is the current one. -/
theorem holding_eq_some {id : AttemptId} : s.holding = some id ↔
    ∃ a, s.currentAttempt = some a ∧ a.id = id ∧ a.resourcesReleased = false := by
  unfold holding
  cases s.currentAttempt with
  | none => simp
  | some a => cases hreleased : a.resourcesReleased <;> simp [hreleased]

/-- No attempt holds resources once the current one released them. -/
theorem holding_eq_none (h : ∀ a, s.currentAttempt = some a → a.resourcesReleased = true) :
    s.holding = none := by
  unfold holding
  cases ha : s.currentAttempt with
  | none => rfl
  | some a => simp [h a ha]

/-- The refresh releases nothing. -/
@[simp]
theorem holding_refresh (s : RetryState historyCapacity) :
    s.refreshPostFailurePhase.holding = s.holding := by
  rcases s.refreshPostFailurePhase_eq with heq | ⟨a, ha, -, heq⟩
  · rw [heq]
  · rw [heq]
    simp [holding, ha]

/-- How a step changes the attempt that holds resources. -/
inductive Hands (s : RetryState historyCapacity) : Event → RetryState historyCapacity → Prop
  /-- An attempt is committed where none holds resources. -/
  | commits (e : Event) (id : AttemptId) (s' : RetryState historyCapacity)
      (commits : committedBy e = some id) (before : s.holding = none)
      (after : s'.holding = some id) : Hands s e s'
  /-- The current attempt releases its resources. -/
  | releases (id : AttemptId) (s' : RetryState historyCapacity)
      (before : ∀ other, s.holding = some other → other = id) (after : s'.holding = none) :
      Hands s (.recordCleanupComplete id, .ok .done) s'
  /-- Nothing changes. -/
  | keeps (e : Event) (s' : RetryState historyCapacity) (commits : committedBy e = none)
      (releases : ∀ id, e ≠ (.recordCleanupComplete id, .ok .done))
      (same : s'.holding = s.holding) : Hands s e s'

/-- What an operation that succeeds hands on. -/
theorem Hands.of_perform (h : s.Phased) {operation : Operation} {output : Output}
    (hop : s.perform operation = .ok (output, s')) : Hands s (operation, .ok output) s' := by
  cases Performs.of_perform hop with
  | explicitStart configurationId generation ht =>
    obtain ⟨-, hreleased, -⟩ := explicitStart_passes ht
    obtain ⟨-, -, -, -, hattempt, -, -⟩ := explicitStart_ok ht
    refine .keeps _ _ rfl (by simp) ?_
    rw [holding_eq_none hreleased, holding_eq_none (by simp [hattempt])]
  | explicitStop generation ht =>
    obtain ⟨-, revision, rfl⟩ := explicitStop_ok ht
    exact .keeps _ _ rfl (by simp) rfl
  | commitInitialAttempt generation id ht =>
    obtain ⟨hphase, hcommit⟩ := commitInitialAttempt_ok ht
    obtain ⟨-, -, episode, attemptsStarted, revision, -, rfl⟩ := commitAttempt_ok hcommit
    refine .commits _ id _ rfl ?_ rfl
    -- In the idle phase of a wanted intent there is no attempt.
    cases h.situation (commitInitialAttempt_passes ht) with
    | idle phase attempt episode => exact holding_eq_none (by simp [attempt])
    | alive a phase attempt failure episode => simp [hphase] at phase
    | failed a phase attempt failure unready episode => simp [hphase] at phase
    | waiting a phase attempt ready episode => simp [hphase] at phase
    | exhausted a phase attempt ready episode => simp [hphase] at phase
  | commitRecoveryAttempt authorization id ht =>
    obtain ⟨-, -, ⟨a, ha, hreleased, -⟩, -, hcommit⟩ := commitRecoveryAttempt_ok ht
    obtain ⟨-, -, episode, attemptsStarted, revision, -, rfl⟩ := commitAttempt_ok hcommit
    refine .commits _ id _ rfl (holding_eq_none ?_) rfl
    rintro b hb
    rw [ha, Option.some.injEq] at hb
    exact hb ▸ hreleased
  | recordOwnerCreated attemptId ht =>
    obtain ⟨-, a, revision, ha, -, -, rfl⟩ := recordOwnerCreated_ok ht
    exact .keeps _ _ rfl (by simp) (by simp [holding, ha])
  | recordStreamStarted attemptId ht =>
    obtain ⟨-, a, revision, ha, -, -, rfl⟩ := recordStreamStarted_ok ht
    exact .keeps _ _ rfl (by simp) (by simp [holding, ha])
  | recordNormalCompletion attemptId ht =>
    obtain ⟨-, a, revision, ha, -, -, -, rfl⟩ := recordNormalCompletion_ok ht
    exact .keeps _ _ rfl (by simp) (by simp [holding, ha])
  | recordFailure attemptId cause ht =>
    obtain ⟨a, episode, totals, consecutive, revision, ha, -, -, -, -, -, -, rfl⟩ :=
      recordFailure_ok ht
    refine .keeps _ _ rfl (by simp) ?_
    rw [holding_refresh]
    simp [holding, ha]
  | recordTerminalEventDelivered attemptId ht =>
    obtain ⟨a, revision, ha, -, -, -, -, rfl⟩ := recordTerminalEventDelivered_ok ht
    refine .keeps _ _ rfl (by simp) ?_
    rw [holding_refresh]
    simp [holding, ha]
  | recordCleanupComplete attemptId ht =>
    obtain ⟨a, revision, ha, hid, -, rfl⟩ := recordCleanupComplete_ok ht
    refine .releases attemptId _ (fun other hother => ?_) ?_
    · obtain ⟨b, hb, hother, -⟩ := holding_eq_some.mp hother
      rw [ha, Option.some.injEq] at hb
      rw [← hother, ← hb, hid]
    · rw [holding_refresh]
      rfl
  | requireCooldown evaluated marker ht =>
    obtain ⟨-, -, a, revision, -, rfl⟩ := requireCooldown_ok ht
    exact .keeps _ _ rfl (by simp) rfl
  | satisfyCooldown generation marker evidence ht =>
    obtain ⟨-, -, requirement, revision, -, -, rfl⟩ := satisfyCooldown_ok ht
    exact .keeps _ _ rfl (by simp) rfl
  | markExhausted evaluated reason ht =>
    obtain ⟨-, -, episode, exhaustion, revision, -, rfl⟩ := markExhausted_ok ht
    exact .keeps _ _ rfl (by simp) rfl
  | advanceRecoveryEpisode generation evidence id ht =>
    obtain ⟨-, -, -, -, revision, rfl⟩ := advanceRecoveryEpisode_ok ht
    exact .keeps _ _ rfl (by simp) rfl
  | snapshot _ _ => exact .keeps _ _ rfl (by simp) rfl

/-- What a step hands on. -/
theorem Hands.of_step (h : s.Phased) (hstep : (operations historyCapacity).step s e s') :
    Hands s e s' := by
  obtain ⟨operation, outcome⟩ := e
  rw [operations_step] at hstep
  cases outcome with
  | ok output => exact .of_perform h (apply_eq_ok.mp hstep)
  | error e =>
    obtain rfl := eq_of_apply_error hstep
    exact .keeps _ _ rfl (by simp) rfl

/-- In every run the unreleased attempt is the current one, which holds its resources. -/
theorem unreleased_iff {s₀ : RetryState historyCapacity}
    (hnew : RetryState.new historyCapacity = .ok s₀)
    (hrun : (operations historyCapacity).Run s₀ events s) :
    ∀ id, Unreleased events id ↔ s.holding = some id := by
  apply TransitionSystem.Run.history
    (I := fun events s => ∀ id, Unreleased events id ↔ s.holding = some id) _ _ hrun
  · intro id
    obtain rfl := eq_of_new hnew
    constructor
    · rintro ⟨before, e, after, heq, -⟩
      simp at heq
    · nofun
  · intro events t e t' hevents ih hstep id
    -- One event more: a commit adds an attempt, and the release of the current one takes it away.
    rw [unreleased_snoc, ih id]
    cases Hands.of_step (Phased.of_run hnew hevents) hstep with
    | commits e id' t' commits before after => simp [commits, before, after]
    | releases id' t' before after =>
      rw [after]
      constructor
      · rintro (hcommits | ⟨hheld, hother⟩)
        · cases hcommits
        · exact absurd (by rw [before id hheld]) hother
      · nofun
    | keeps e t' commits releases same => simp [commits, releases, same]

end Unreleased

/-! ## The whole statement -/

/-- What the phase of a wanted intent says of its other fields. -/
structure PhasesAgree (s : RetryState historyCapacity) : Prop where
  /-- It is idle exactly while there is no attempt. -/
  idle : s.phase = .idle ↔ s.currentAttempt = none
  /-- It waits exactly while the attempt is ready for evaluation and the episode is open. -/
  waiting : s.phase = .waiting ↔
    (∃ a, s.currentAttempt = some a ∧ a.readyForEvaluation = true) ∧ s.exhaustion = none
  /-- It is failed exactly while the attempt failed and is not ready for evaluation. -/
  failed : s.phase = .failed ↔ ∃ a, s.currentAttempt = some a ∧ a.failure.isSome = true ∧
    a.readyForEvaluation = false
  /-- It is exhausted exactly while the episode is. -/
  exhausted : s.phase = .exhausted ↔ s.exhaustion.isSome = true

/-- What holds of the phases, the cooldown and the attempts after the events of a run. -/
structure PhaseCoherent (events : List Event) (s : RetryState historyCapacity) : Prop where
  /-- The phase of a wanted intent agrees with its other fields. -/
  phases : s.desiredRunning = true → PhasesAgree s
  /-- A cooldown that is pending or satisfied names the current attempt, after its evaluation. -/
  cooldown : ∀ requirement, (s.cooldown = .pending requirement ∨
      ∃ evidence, s.cooldown = .satisfied requirement evidence) →
    (∃ a, s.currentAttempt = some a ∧ a.id = requirement.attemptId) ∧
      (s.phase = .waiting ∨ s.phase = .exhausted)
  /-- The failure of the current attempt is kept. -/
  failure : ∀ a, s.currentAttempt = some a → a.failure.isSome = true → s.lastFailure.isSome = true
  /-- An unreleased attempt is the current one. -/
  current : ∀ id, Unreleased events id → ∃ a, s.currentAttempt = some a ∧ a.id = id
  /-- Two unreleased attempts are one. -/
  single : ∀ id id', Unreleased events id → Unreleased events id' → id = id'

/-- In each of the situations the phase agrees with the other fields. -/
theorem PhasesAgree.of_situation {s : RetryState historyCapacity} (h : Situation s) :
    PhasesAgree s := by
  cases h with
  | idle phase attempt episode =>
    exact ⟨by simp [phase, attempt], by simp [phase, attempt], by simp [phase, attempt],
      by simp [phase, episode]⟩
  | alive a phase attempt failure episode =>
    have hunready := AttemptState.unready_of_failure_none failure
    rcases phase with phase | phase <;>
      exact ⟨by simp [phase, attempt], by simp [phase, attempt, hunready],
        by simp [phase, attempt, failure], by simp [phase, episode]⟩
  | failed a phase attempt failure unready episode =>
    exact ⟨by simp [phase, attempt], by simp [phase, attempt, unready],
      by simp [phase, attempt, failure, unready], by simp [phase, episode]⟩
  | waiting a phase attempt ready episode =>
    exact ⟨by simp [phase, attempt], by simp [phase, attempt, ready, episode],
      by simp [phase, attempt, ready], by simp [phase, episode]⟩
  | exhausted a phase attempt ready episode =>
    have hsome : s.exhaustion ≠ none := Option.isSome_iff_ne_none.mp episode
    exact ⟨by simp [phase, attempt], by simp [phase, hsome], by simp [phase, attempt, ready],
      by simp [phase, episode]⟩

/-- After every run the phase, the attempt, the cooldown and the exhaustion describe one situation,
and at most one attempt holds resources. -/
theorem phases_coherent {s₀ s : RetryState historyCapacity} {events : List Event}
    (hnew : RetryState.new historyCapacity = .ok s₀)
    (hrun : (operations historyCapacity).Run s₀ events s) : PhaseCoherent events s := by
  have hcoherent := Coherent.of_run hnew hrun
  have hphased := Phased.of_run hnew hrun
  have hunreleased := unreleased_iff hnew hrun
  refine ⟨fun hdesired => .of_situation (hphased.situation hdesired), ?_, hcoherent.failed, ?_, ?_⟩
  · intro requirement hcooldown
    have hrequired : s.cooldown.required = some requirement := by
      rcases hcooldown with hpending | ⟨evidence, hsatisfied⟩
      · rw [hpending]
        rfl
      · rw [hsatisfied]
        rfl
    obtain ⟨hnamed, hphase⟩ := hphased.cooldown requirement hrequired
    exact ⟨Option.map_eq_some_iff.mp hnamed, hphase⟩
  · intro id hid
    obtain ⟨a, ha, hsame, -⟩ := holding_eq_some.mp ((hunreleased id).mp hid)
    exact ⟨a, ha, hsame⟩
  · intro id id' hid hid'
    have hheld := (hunreleased id).mp hid
    rw [(hunreleased id').mp hid', Option.some.injEq] at hheld
    exact hheld.symm

/-- A start, an attempt that fails before its owner exists, its release, and a required cooldown. -/
def failingScript : List (RetryState 1 → Operation) :=
  [fun _ => .explicitStart ⟨1, .first, 0⟩,
    fun _ => .commitInitialAttempt ⟨1⟩,
    fun _ => .recordCleanupComplete ⟨⟨1⟩, ⟨1⟩⟩,
    fun _ => .recordFailure ⟨⟨1⟩, ⟨1⟩⟩ .startupFailure,
    fun s => match s.snapshot with
      | .ok evaluated => .requireCooldown evaluated ⟨7⟩
      | .error _ => .snapshot]

/-- The phases of that script. -/
theorem phases_coherent_example :
    PhaseCoherent (freshState.record failingScript).1 (freshState.record failingScript).2 :=
  phases_coherent rfl (run_record freshState failingScript)

end RetryState

end ResonanceSignal
