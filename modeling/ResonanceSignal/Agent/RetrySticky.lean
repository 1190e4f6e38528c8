import ResonanceSignal.Agent.RetryPhases

/-!
# What an explicit stop and an exhausted episode end

A stopped intent refuses every operation that would move recovery on, and keeps refusing until the
next explicit start (`Stopped`); the facts of its attempt are recorded as before, since no check of
theirs looks at the intent (`fact_isOk_eq`). The next start is of a later generation, so nothing
that names the stopped one is accepted again (`Outdated`).

An exhausted episode stays exhausted in its generation until evidence of a changed precondition
begins the next one (`exhaustion_of_step`). That rests on the situations of `RetryPhases`: a wanted
intent with an exhausted episode is in the exhausted phase, which evidence of a stable run does not
leave, and on which a late fact has no effect.
-/

namespace ResonanceSignal

namespace RetryState

variable {historyCapacity : ℕ} {s s' t u : RetryState historyCapacity} {events : List Event}
  {e : Event}

/-! ## The kinds of operations -/

/-- An operation that records a fact about an attempt. -/
def IsFact : Operation → Prop
  | .recordOwnerCreated _ => True
  | .recordStreamStarted _ => True
  | .recordNormalCompletion _ => True
  | .recordFailure _ _ => True
  | .recordTerminalEventDelivered _ => True
  | .recordCleanupComplete _ => True
  | _ => False

/-- An operation that moves recovery on. -/
def Progresses : Operation → Prop
  | .commitInitialAttempt _ => True
  | .commitRecoveryAttempt _ => True
  | .requireCooldown _ _ => True
  | .satisfyCooldown _ _ _ => True
  | .markExhausted _ _ => True
  | .advanceRecoveryEpisode _ _ => True
  | _ => False

/-- An operation moves recovery on, records a fact, starts or stops an intent, or only looks. -/
theorem kinds (operation : Operation) : Progresses operation ∨ IsFact operation ∨
    (∃ configurationId, operation = .explicitStart configurationId) ∨
      (∃ generation, operation = .explicitStop generation) ∨ operation = .snapshot := by
  cases operation <;> simp [Progresses, IsFact]

/-- An event that starts an intent. -/
def StartsIntent : Event → Prop
  | (.explicitStart _, .ok _) => True
  | _ => False

/-- An event that begins an episode on a changed precondition. -/
def ChangesPrecondition : Event → Prop
  | (.advanceRecoveryEpisode _ (.changedPrecondition _), .ok _) => True
  | _ => False

/-- The refresh keeps the episode. -/
@[simp]
theorem exhaustion_refresh (s : RetryState historyCapacity) :
    s.refreshPostFailurePhase.exhaustion = s.exhaustion := by
  rcases s.refreshPostFailurePhase_eq with heq | ⟨a, -, -, heq⟩
  · rw [heq]
  · rw [heq]
    rfl

/-- What recording a fact keeps. -/
structure FactKeeps (s s' : RetryState historyCapacity) : Prop where
  /-- Whether the intent is wanted. -/
  desired : s'.desiredRunning = s.desiredRunning
  /-- The phase of an intent that is not wanted. -/
  phase : s.desiredRunning = false → s'.phase = s.phase
  /-- The cooldown. -/
  cooldown : s'.cooldown = s.cooldown
  /-- The exhaustion of an episode. -/
  exhaustion : s.exhaustion.isSome = true → s'.exhaustion = s.exhaustion

/-- The refresh keeps what a fact keeps. -/
theorem FactKeeps.refresh (h : FactKeeps s s') : FactKeeps s s'.refreshPostFailurePhase := by
  refine ⟨by simp [h.desired], fun hunwanted => ?_, by simp [h.cooldown],
    fun hexhausted => by simp [h.exhaustion hexhausted]⟩
  rw [refresh_of_unwanted (h.desired.trans hunwanted)]
  exact h.phase hunwanted

/-- A fact that is recorded keeps the rest of the state. -/
theorem FactKeeps.of_perform {operation : Operation} {output : Output} (hfact : IsFact operation)
    (hop : s.perform operation = .ok (output, s')) : FactKeeps s s' := by
  cases Performs.of_perform hop with
  | recordOwnerCreated attemptId hv =>
    obtain ⟨-, a, revision, -, -, -, rfl⟩ := recordOwnerCreated_ok hv
    exact ⟨rfl, fun _ => rfl, rfl, fun _ => rfl⟩
  | recordStreamStarted attemptId hv =>
    obtain ⟨-, a, revision, -, -, -, rfl⟩ := recordStreamStarted_ok hv
    exact ⟨rfl, fun hunwanted => by simp [hunwanted], rfl, fun _ => rfl⟩
  | recordNormalCompletion attemptId hv =>
    obtain ⟨-, a, revision, -, -, -, -, rfl⟩ := recordNormalCompletion_ok hv
    exact ⟨rfl, fun _ => rfl, rfl, fun _ => rfl⟩
  | recordFailure attemptId cause hv =>
    obtain ⟨a, episode, totals, consecutive, revision, -, -, -, -, hepisode, -, -, rfl⟩ :=
      recordFailure_ok hv
    refine FactKeeps.refresh ⟨rfl, fun hunwanted => by simp [hunwanted], rfl, fun hexhausted => ?_⟩
    -- An episode that is exhausted is there, and the failure belongs to it.
    cases hcurrent : s.recoveryEpisode with
    | none => simp [RetryState.exhaustion, hcurrent] at hexhausted
    | some current =>
      unfold failureEpisode at hepisode
      rw [hcurrent] at hepisode
      cases hepisode
      simp [RetryState.exhaustion, hcurrent]
  | recordTerminalEventDelivered attemptId hv =>
    obtain ⟨a, revision, -, -, -, -, -, rfl⟩ := recordTerminalEventDelivered_ok hv
    exact FactKeeps.refresh ⟨rfl, fun _ => rfl, rfl, fun _ => rfl⟩
  | recordCleanupComplete attemptId hv =>
    obtain ⟨a, revision, -, -, -, rfl⟩ := recordCleanupComplete_ok hv
    exact FactKeeps.refresh ⟨rfl, fun _ => rfl, rfl, fun _ => rfl⟩
  | _ => cases hfact

/-! ## A stopped intent -/

/-- An intent that was stopped, and not started again. -/
structure Stopped (s : RetryState historyCapacity) : Prop where
  /-- It is not wanted. -/
  desired : s.desiredRunning = false
  /-- Its phase says so. -/
  phase : s.phase = .stopped
  /-- No cooldown is required. -/
  cooldown : s.cooldown.required = none

/-- An operation that moves recovery on succeeds only for a wanted intent, or in another phase. -/
theorem Stopped.refuses (h : Stopped s) {operation : Operation} (hprogress : Progresses operation) :
    ∃ error, s.perform operation = .error error := by
  rcases Result.ok_or_error (s.perform operation) with ⟨⟨output, s'⟩, hop⟩ | herror
  · exfalso
    -- Each of them checks the intent, the phase, or a pending cooldown.
    cases Performs.of_perform hop with
    | commitInitialAttempt generation id hv =>
      cases h.desired.symm.trans (commitInitialAttempt_passes hv)
    | commitRecoveryAttempt authorization id hv =>
      cases h.desired.symm.trans (commitRecoveryAttempt_passes hv).1
    | requireCooldown evaluated marker hv =>
      cases h.phase.symm.trans (requireCooldown_passes hv)
    | satisfyCooldown generation marker evidence hv =>
      obtain ⟨-, -, requirement, revision, hpending, -⟩ := satisfyCooldown_ok hv
      have hnone := h.cooldown
      rw [hpending] at hnone
      cases hnone
    | markExhausted evaluated reason hv =>
      cases h.phase.symm.trans (markExhausted_ok hv).2.1
    | advanceRecoveryEpisode generation evidence id hv =>
      have haccepts := advanceRecoveryEpisode_passes hv
      rw [h.phase] at haccepts
      cases evidence <;> cases haccepts
    | _ => cases hprogress
  · exact herror

/-- A fact leaves a stopped intent stopped. -/
theorem Stopped.fact (h : Stopped s) (hkeeps : FactKeeps s s') : Stopped s' :=
  ⟨hkeeps.desired.trans h.desired, (hkeeps.phase h.desired).trans h.phase,
    by rw [hkeeps.cooldown]; exact h.cooldown⟩

/-- A stop stops the intent. -/
theorem Stopped.of_explicitStop {generation : IntentGeneration}
    (h : s.explicitStop generation = .ok s') : Stopped s' := by
  obtain ⟨-, revision, rfl⟩ := explicitStop_ok h
  have hnone : s.cooldown.invalidate.required = none := by
    cases s.cooldown <;> rfl
  exact ⟨rfl, rfl, hnone⟩

/-- Every step but a start leaves a stopped intent stopped. -/
theorem Stopped.step (h : Stopped s) (hstep : (operations historyCapacity).step s e s')
    (hstart : ¬StartsIntent e) : Stopped s' := by
  obtain ⟨operation, outcome⟩ := e
  rw [operations_step] at hstep
  cases outcome with
  | error error => exact eq_of_apply_error hstep ▸ h
  | ok output =>
    have hop := apply_eq_ok.mp hstep
    rcases kinds operation with hprogress | hfact | ⟨configurationId, rfl⟩ | ⟨generation, rfl⟩ | rfl
    · obtain ⟨error, herror⟩ := h.refuses hprogress
      rw [herror] at hop
      cases hop
    · exact h.fact (.of_perform hfact hop)
    · exact absurd trivial hstart
    · obtain ⟨v, hv, heq⟩ := Result.map_eq_ok.mp hop
      cases heq
      exact .of_explicitStop hv
    · obtain ⟨r, -, heq⟩ := Result.map_eq_ok.mp hop
      cases heq
      exact h

/-- A run without a start leaves a stopped intent stopped. -/
theorem Stopped.run (h : Stopped s) (hrun : (operations historyCapacity).Run s events s')
    (hstart : ∀ e ∈ events, ¬StartsIntent e) : Stopped s' := by
  induction events generalizing s with
  | nil => exact TransitionSystem.run_nil.mp hrun ▸ h
  | cons e events ih =>
    obtain ⟨t, hstep, hrest⟩ := TransitionSystem.run_cons.mp hrun
    have ht : Stopped t := h.step hstep (hstart e List.mem_cons_self)
    exact ih ht hrest fun e' he' => hstart e' (List.mem_cons_of_mem _ he')

/-! ## Late facts -/

/-- The state as it would be, were its intent wanted in some phase. -/
def wantedIn (s : RetryState historyCapacity) (phase : RetryPhase) : RetryState historyCapacity :=
  { s with desiredRunning := true, phase := phase }

/-- Whether a fact is recorded does not depend on the intent. -/
theorem fact_isOk_eq (s : RetryState historyCapacity) {operation : Operation}
    (hfact : IsFact operation) (phase : RetryPhase) :
    (s.perform operation).isOk = ((s.wantedIn phase).perform operation).isOk := by
  have hrevision : (s.wantedIn phase).nextRevision = s.nextRevision := rfl
  have hattempt : ∀ attemptId,
      (s.wantedIn phase).requireAttempt attemptId = s.requireAttempt attemptId := fun _ => rfl
  have hepisode : (s.wantedIn phase).failureEpisode = s.failureEpisode := rfl
  have htotals : (s.wantedIn phase).failureTotals = s.failureTotals := rfl
  have hconsecutive : (s.wantedIn phase).consecutiveFailedAttempts
      = s.consecutiveFailedAttempts := rfl
  -- The checks of these operations do not look at what differs.
  cases operation with
  | recordOwnerCreated attemptId =>
    show (Except.map _ _).isOk = (Except.map _ _).isOk
    rw [Result.isOk_map, Result.isOk_map]
    unfold recordOwnerCreated
    rw [hrevision, hattempt]
    exact Result.isOk_bind fun _ => Result.isOk_bind fun _ => Result.isOk_bind fun _ => rfl
  | recordStreamStarted attemptId =>
    show (Except.map _ _).isOk = (Except.map _ _).isOk
    rw [Result.isOk_map, Result.isOk_map]
    unfold recordStreamStarted
    rw [hrevision, hattempt]
    exact Result.isOk_bind fun _ => Result.isOk_bind fun _ => Result.isOk_bind fun _ => rfl
  | recordNormalCompletion attemptId =>
    show (Except.map _ _).isOk = (Except.map _ _).isOk
    rw [Result.isOk_map, Result.isOk_map]
    unfold recordNormalCompletion
    rw [hrevision, hattempt]
    exact Result.isOk_bind fun _ => Result.isOk_bind fun _ => Result.isOk_bind fun _ => rfl
  | recordFailure attemptId cause =>
    show (Except.map _ _).isOk = (Except.map _ _).isOk
    rw [Result.isOk_map, Result.isOk_map]
    unfold recordFailure
    rw [hattempt, hepisode, htotals, hconsecutive, hrevision]
    exact Result.isOk_bind fun _ => Result.isOk_bind fun _ => Result.isOk_bind fun _ =>
      Result.isOk_bind fun _ => Result.isOk_bind fun _ => Result.isOk_bind fun _ =>
      Result.isOk_bind fun _ => rfl
  | recordTerminalEventDelivered attemptId =>
    show (Except.map _ _).isOk = (Except.map _ _).isOk
    rw [Result.isOk_map, Result.isOk_map]
    unfold recordTerminalEventDelivered
    rw [hrevision, hattempt]
    exact Result.isOk_bind fun _ => Result.isOk_bind fun _ => Result.isOk_bind fun _ => rfl
  | recordCleanupComplete attemptId =>
    show (Except.map _ _).isOk = (Except.map _ _).isOk
    rw [Result.isOk_map, Result.isOk_map]
    unfold recordCleanupComplete
    rw [hrevision, hattempt]
    exact Result.isOk_bind fun _ => Result.isOk_bind fun _ => rfl
  | _ => cases hfact

/-- A counter that is not at its end has a next value. -/
theorem exists_increment {counter : UInt64} (h : counter.toNat + 1 < 2^64) :
    ∃ next, increment counter = .ok next := by
  refine ⟨UInt64.ofNat (counter.toNat + 1), increment_eq_ok.mpr ?_⟩
  rw [UInt64.toNat_ofNat', Nat.mod_eq_of_lt h]

/-- The release of the current attempt is recorded, unless the revisions are used up. -/
theorem exists_recordCleanupComplete {a : AttemptState} (ha : s.currentAttempt = some a)
    (hrevision : s.stateRevision.get.toNat + 1 < 2^64) :
    ∃ s', s.recordCleanupComplete a.id = .ok s' := by
  obtain ⟨revision, hnext⟩ := exists_increment hrevision
  have hattempt : s.requireAttempt a.id = .ok a := by
    unfold requireAttempt
    simp [ha, okOr, failIf, bind, Except.bind, pure, Except.pure]
  refine ⟨_, Result.bind_eq_ok.mpr ⟨⟨revision⟩, ?_, Result.bind_eq_ok.mpr ⟨a, hattempt, rfl⟩⟩⟩
  unfold nextRevision
  rw [hnext]
  rfl

/-! ## A later start -/

/-- What names a generation is refused. -/
structure Outdated (generation : IntentGeneration) (s : RetryState historyCapacity) : Prop where
  /-- Its snapshots are not current. -/
  snapshots : ∀ snapshot : RetrySnapshot, snapshot.intentGeneration = generation →
    s.isCurrentSnapshot snapshot = false
  /-- No cooldown is required on them, and no episode is exhausted on them. -/
  evaluated : ∀ snapshot : RetrySnapshot, snapshot.intentGeneration = generation →
    (∀ marker, ∃ error, s.requireCooldown snapshot marker = .error error) ∧
      ∀ reason, ∃ error, s.markExhausted snapshot reason = .error error
  /-- Its authorizations commit no attempt. -/
  authorizations : ∀ authorization : RecoveryAuthorization,
    authorization.intentGeneration = generation →
      ∃ error, s.commitRecoveryAttempt authorization = .error error

/-- A step keeps the generation, unless it starts the next one. -/
theorem generation_of_step (hstep : (operations historyCapacity).step s e s') :
    (StartsIntent e ∧ s'.lastIntentGeneration.toNat = s.lastIntentGeneration.toNat + 1) ∨
      (¬StartsIntent e ∧ s'.lastIntentGeneration = s.lastIntentGeneration ∧
        s'.intentGeneration = s.intentGeneration) := by
  have hcontinues : ∀ {v : RetryState historyCapacity}, Continues s v →
      v.lastIntentGeneration = s.lastIntentGeneration ∧ v.intentGeneration = s.intentGeneration :=
    fun h => ⟨h.last, h.generation⟩
  cases Effect.of_step hstep with
  | failed operation error =>
    refine .inr ⟨?_, rfl, rfl⟩
    cases operation <;> exact id
  | observed snapshot taken => exact .inr ⟨id, rfl, rfl⟩
  | started configurationId g s' next last attempt episode cooldown =>
    exact .inl ⟨trivial, by rw [last, next]⟩
  | recorded operation s' records =>
    refine .inr ⟨?_, hcontinues records.toContinues⟩
    rw [operations_step, apply_eq_ok] at hstep
    cases operation with
    | explicitStart configurationId =>
      obtain ⟨_, -, heq⟩ := Result.map_eq_ok.mp hstep
      cases heq
    | _ => exact id
  | committed g id s' commits episode => exact .inr ⟨fun h => h, hcontinues commits.toContinues⟩
  | recovered authorization id s' commits performs episode n before after =>
    exact .inr ⟨fun h => h, hcontinues commits.toContinues⟩
  | required evaluated marker id s' continues named attempt attempt' cooldown episode =>
    exact .inr ⟨fun h => h, hcontinues continues⟩
  | satisfied g requirement evidence s' continues current pending attempt cooldown episode =>
    exact .inr ⟨fun h => h, hcontinues continues⟩
  | advanced g evidence id previous n s' continues current next before after attempt cooldown =>
    exact .inr ⟨fun h => h, hcontinues continues⟩

/-- A run never goes back to an earlier generation, and a start leaves the last one behind. -/
theorem lastGeneration_of_run (hrun : (operations historyCapacity).Run s events s') :
    s.lastIntentGeneration.toNat ≤ s'.lastIntentGeneration.toNat ∧
      ((∃ e ∈ events, StartsIntent e) →
        s.lastIntentGeneration.toNat < s'.lastIntentGeneration.toNat) := by
  induction events generalizing s with
  | nil =>
    cases TransitionSystem.run_nil.mp hrun
    exact ⟨le_refl _, by simp⟩
  | cons e events ih =>
    obtain ⟨t, hstep, hrest⟩ := TransitionSystem.run_cons.mp hrun
    obtain ⟨hle, hlt⟩ := ih hrest
    rcases generation_of_step hstep with ⟨hstart, hnext⟩ | ⟨hkeeps, hlast, -⟩
    · exact ⟨by omega, fun _ => by omega⟩
    · rw [hlast] at hle hlt
      refine ⟨hle, ?_⟩
      rintro ⟨e', hmem, hstart⟩
      rcases List.mem_cons.mp hmem with rfl | hmem
      · exact absurd hstart hkeeps
      · exact hlt ⟨e', hmem, hstart⟩

/-- Another generation than the current one is refused. -/
theorem Outdated.of_generation {generation : IntentGeneration}
    (h : s.intentGeneration ≠ some generation) : Outdated generation s := by
  have hsnapshot : ∀ snapshot : RetrySnapshot, snapshot.intentGeneration = generation →
      ∀ passed, s.requireCurrentSnapshot snapshot ≠ .ok passed := by
    rintro snapshot rfl passed hcurrent
    exact h (requireCurrentSnapshot_ok hcurrent).1
  refine ⟨fun snapshot hsame => ?_, fun snapshot hsame => ⟨fun marker => ?_, fun reason => ?_⟩,
    fun authorization hsame => ?_⟩
  · unfold isCurrentSnapshot
    rcases Result.ok_or_error (s.requireCurrentSnapshot snapshot) with ⟨passed, hok⟩ | ⟨error, he⟩
    · exact absurd hok (hsnapshot snapshot hsame passed)
    · rw [he]
      rfl
  · rcases Result.ok_or_error (s.requireCooldown snapshot marker) with ⟨v, hv⟩ | herror
    · exact absurd (requireCooldown_ok hv).2.1 (hsnapshot snapshot hsame ())
    · exact herror
  · rcases Result.ok_or_error (s.markExhausted snapshot reason) with ⟨v, hv⟩ | herror
    · obtain ⟨passed, hcurrent, -⟩ := Result.bind_eq_ok.mp hv
      exact absurd hcurrent (hsnapshot snapshot hsame passed)
    · exact herror
  · rcases Result.ok_or_error (s.commitRecoveryAttempt authorization) with ⟨v, hv⟩ | herror
    · obtain ⟨id, v⟩ := v
      have hcurrent := requireCurrentAuthorization_ok (commitRecoveryAttempt_ok hv).1
      exact absurd (hsame ▸ hcurrent.1) h
    · exact herror

/-! ## An exhausted episode -/

/-- The situation of a wanted intent whose episode is exhausted is the exhausted one. -/
theorem Situation.of_exhaustion (h : Situation s) (hexhausted : s.exhaustion.isSome = true) :
    s.phase = .exhausted := by
  have hcontra : s.exhaustion ≠ none := Option.isSome_iff_ne_none.mp hexhausted
  cases h with
  | idle phase attempt episode => exact absurd episode hcontra
  | alive a phase attempt failure episode => exact absurd episode hcontra
  | failed a phase attempt failure unready episode => exact absurd episode hcontra
  | waiting a phase attempt ready episode => exact absurd episode hcontra
  | exhausted a phase attempt ready episode => exact phase

/-- An exhausted episode stays exhausted until an intent starts or a precondition changes. -/
theorem exhaustion_of_step (hs : s.Phased) (hexhausted : s.exhaustion.isSome = true)
    (hstep : (operations historyCapacity).step s e s') (hstart : ¬StartsIntent e)
    (hchange : ¬ChangesPrecondition e) : s'.exhaustion.isSome = true := by
  obtain ⟨operation, outcome⟩ := e
  rw [operations_step] at hstep
  cases outcome with
  | error error => exact eq_of_apply_error hstep ▸ hexhausted
  | ok output =>
    have hop := apply_eq_ok.mp hstep
    have hfacts : IsFact operation → s'.exhaustion.isSome = true := by
      intro hfact
      rw [(FactKeeps.of_perform hfact hop).exhaustion hexhausted]
      exact hexhausted
    cases Performs.of_perform hop with
    | explicitStart configurationId => exact absurd trivial hstart
    | explicitStop generation hv =>
      obtain ⟨-, revision, rfl⟩ := explicitStop_ok hv
      exact hexhausted
    | commitInitialAttempt generation id hv =>
      -- The phase of a wanted intent with an exhausted episode is not idle.
      have hsituation := hs.situation (commitInitialAttempt_passes hv)
      cases (commitInitialAttempt_ok hv).1.symm.trans (hsituation.of_exhaustion hexhausted)
    | commitRecoveryAttempt authorization id hv =>
      rw [(commitRecoveryAttempt_passes hv).2] at hexhausted
      cases hexhausted
    | requireCooldown evaluated marker hv =>
      obtain ⟨-, -, a, revision, -, rfl⟩ := requireCooldown_ok hv
      exact hexhausted
    | satisfyCooldown generation marker evidence hv =>
      obtain ⟨-, -, requirement, revision, -, -, rfl⟩ := satisfyCooldown_ok hv
      exact hexhausted
    | markExhausted evaluated reason hv =>
      obtain ⟨-, -, episode, exhaustion, revision, -, rfl⟩ := markExhausted_ok hv
      rfl
    | advanceRecoveryEpisode generation evidence id hv =>
      have haccepts := advanceRecoveryEpisode_passes hv
      cases evidence with
      | changedPrecondition evidence => exact absurd trivial hchange
      | stableRun evidence =>
        -- Neither the exhausted phase nor a stopped one accepts evidence of a stable run.
        exfalso
        cases hdesired : s.desiredRunning with
        | true =>
          rw [(hs.situation hdesired).of_exhaustion hexhausted] at haccepts
          cases haccepts
        | false =>
          rcases hs.unwanted hdesired with hphase | hphase <;> rw [hphase] at haccepts <;>
            cases haccepts
    | snapshot r _ => exact hexhausted
    | recordOwnerCreated attemptId => exact hfacts trivial
    | recordStreamStarted attemptId => exact hfacts trivial
    | recordNormalCompletion attemptId => exact hfacts trivial
    | recordFailure attemptId cause => exact hfacts trivial
    | recordTerminalEventDelivered attemptId => exact hfacts trivial
    | recordCleanupComplete attemptId => exact hfacts trivial

/-! ## The whole statement -/

/-- What an explicit stop of a generation ends. -/
structure StopAbsorbs (generation : IntentGeneration) (t : RetryState historyCapacity) :
    Prop where
  /-- Until the next start the intent is stopped. -/
  stopped : ∀ events u, (operations historyCapacity).Run t events u →
    (∀ e ∈ events, ¬StartsIntent e) → u.desiredRunning = false ∧ u.phase = .stopped
  /-- Until the next start no operation moves recovery on. -/
  refuses : ∀ events u, (operations historyCapacity).Run t events u →
    (∀ e ∈ events, ¬StartsIntent e) → ∀ operation, Progresses operation →
      ∃ error, u.perform operation = .error error
  /-- A fact is recorded exactly where it would be, were the intent wanted. -/
  facts : ∀ events u, (operations historyCapacity).Run t events u →
    (∀ e ∈ events, ¬StartsIntent e) → ∀ operation, IsFact operation → ∀ phase,
      (u.perform operation).isOk = ((u.wantedIn phase).perform operation).isOk
  /-- The release of the current attempt can be recorded while revisions are left. -/
  release : ∀ events u, (operations historyCapacity).Run t events u →
    (∀ e ∈ events, ¬StartsIntent e) → ∀ a, u.currentAttempt = some a →
      u.stateRevision.get.toNat + 1 < 2^64 → ∃ v, u.recordCleanupComplete a.id = .ok v
  /-- From the next start on, what names the stopped generation is refused. -/
  outdated : ∀ events u, (operations historyCapacity).Run t events u →
    (∃ e ∈ events, StartsIntent e) → Outdated generation u

/-- What an exhausted episode ends, until a precondition changes. -/
def ExhaustionSticks (t : RetryState historyCapacity) : Prop :=
  ∀ events u, (operations historyCapacity).Run t events u →
    u.intentGeneration = t.intentGeneration → (∀ e ∈ events, ¬ChangesPrecondition e) →
      ∀ authorization, ∃ error, u.commitRecoveryAttempt authorization = .error error

/-- A stop absorbs. -/
theorem StopAbsorbs.of_step {s₀ : RetryState historyCapacity} {before : List Event}
    {generation : IntentGeneration} {output : Output}
    (hnew : RetryState.new historyCapacity = .ok s₀)
    (hrun : (operations historyCapacity).Run s₀ before s)
    (hstop : (operations historyCapacity).step s (.explicitStop generation, .ok output) t) :
    StopAbsorbs generation t := by
  have ht : (operations historyCapacity).Run s₀ (before ++ [(.explicitStop generation, .ok output)])
      t := TransitionSystem.run_snoc.mpr ⟨s, hrun, hstop⟩
  rw [operations_step, apply_eq_ok] at hstop
  obtain ⟨v, hv, heq⟩ := Result.map_eq_ok.mp hstop
  cases heq
  have hstopped : Stopped t := .of_explicitStop hv
  have hgeneration : t.intentGeneration = some generation := by
    have hcurrent := explicitStop_passes hv
    obtain ⟨-, revision, rfl⟩ := explicitStop_ok hv
    exact hcurrent
  refine ⟨fun events u hu hno => ?_, fun events u hu hno operation hprogress => ?_,
    fun events u _ _ operation hfact phase => fact_isOk_eq u hfact phase,
    fun events u _ _ a ha hrevision => exists_recordCleanupComplete ha hrevision,
    fun events u hu hstart => ?_⟩
  · have hu := hstopped.run hu hno
    exact ⟨hu.desired, hu.phase⟩
  · exact (hstopped.run hu hno).refuses hprogress
  · -- The generation of the later start is another one.
    refine .of_generation fun hsame => ?_
    have hlt := (lastGeneration_of_run hu).2 hstart
    have hbefore := (Coherent.of_run hnew ht).generation generation hgeneration
    have hafter := (Coherent.of_run hnew (TransitionSystem.run_append.mpr ⟨t, ht, hu⟩)).generation
      generation hsame
    rw [← hbefore, ← hafter] at hlt
    exact lt_irrefl _ hlt

/-- Exhaustion sticks. -/
theorem ExhaustionSticks.of_step {s₀ : RetryState historyCapacity} {before : List Event}
    {evaluated : RetrySnapshot} {reason : ExhaustionReason} {output : Output}
    (hnew : RetryState.new historyCapacity = .ok s₀)
    (hrun : (operations historyCapacity).Run s₀ before s)
    (hmark : (operations historyCapacity).step s (.markExhausted evaluated reason, .ok output) t) :
    ExhaustionSticks t := by
  have ht : (operations historyCapacity).Run s₀
      (before ++ [(.markExhausted evaluated reason, .ok output)]) t :=
    TransitionSystem.run_snoc.mpr ⟨s, hrun, hmark⟩
  rw [operations_step, apply_eq_ok] at hmark
  obtain ⟨v, hv, heq⟩ := Result.map_eq_ok.mp hmark
  cases heq
  have hgeneration : t.intentGeneration = some evaluated.intentGeneration := by
    obtain ⟨passed, hcurrent, -⟩ := Result.bind_eq_ok.mp hv
    obtain ⟨-, -, episode, exhaustion, revision, -, rfl⟩ := markExhausted_ok hv
    exact (requireCurrentSnapshot_ok hcurrent).1
  have hexhausted : t.exhaustion.isSome = true := by
    obtain ⟨-, -, episode, exhaustion, revision, -, rfl⟩ := markExhausted_ok hv
    rfl
  intro events u hu hsame hchange authorization
  -- A start on the way would have left the generation behind.
  have hstart : ∀ e ∈ events, ¬StartsIntent e := by
    intro e hmem hstarts
    have hlt := (lastGeneration_of_run hu).2 ⟨e, hmem, hstarts⟩
    have hbefore := (Coherent.of_run hnew ht).generation _ hgeneration
    have hafter := (Coherent.of_run hnew (TransitionSystem.run_append.mpr ⟨t, ht, hu⟩)).generation
      _ (hsame.trans hgeneration)
    rw [← hbefore, ← hafter] at hlt
    exact lt_irrefl _ hlt
  have hstuck : u.exhaustion.isSome = true := by
    apply TransitionSystem.Run.history (S := operations historyCapacity)
      (I := fun past w => (∃ rest, events = past ++ rest) → w.exhaustion.isSome = true)
      (fun _ => hexhausted) _ hu ⟨[], by simp⟩
    rintro past w e w' hpast ih hstep ⟨rest, hevents⟩
    have hw := Phased.of_run hnew (TransitionSystem.run_append.mpr ⟨t, ht, hpast⟩)
    have hmem : e ∈ events := by rw [hevents]; simp
    exact exhaustion_of_step hw (ih ⟨e :: rest, by rw [hevents]; simp⟩) hstep (hstart e hmem)
      (hchange e hmem)
  rcases Result.ok_or_error (u.commitRecoveryAttempt authorization) with ⟨r, hr⟩ | herror
  · obtain ⟨id, w⟩ := r
    rw [(commitRecoveryAttempt_passes hr).2] at hstuck
    cases hstuck
  · exact herror

end RetryState

end ResonanceSignal
