import ResonanceSignal.Agent.RetryRuns

/-!
# Snapshots of the retry state go stale for good

A snapshot names five identities of the state it was taken of. They determine the state's version,
and every operation that changes the state raises the version, so a snapshot is current exactly
until the first change (`isCurrentSnapshot_iff`), and an authorization, which names the same
identities, is redeemed at most once (`Redeems.unique`). The identities of committed attempts
increase, since the counter behind them restarts only with a later generation (`Issued`).

The model's operations return no state where they fail. The one operation of the source that changes
the state before its last fallible step is `record_failure`, which looks the attempt up again;
`recordFailureInPlace` has that order, and `recordFailureInPlace_eq` says that the second look never
fails.
-/

namespace ResonanceSignal

namespace RetryState

variable {historyCapacity : ℕ}

/-! ## The order of changes in `record_failure` -/

/-- The part of `record_failure` before its first change. -/
def checkFailure (self : RetryState historyCapacity) (attemptId : AttemptId)
    (cause : RetryFailureCause) : Except RetryTransitionError
      (AttemptState × RecoveryEpisodeState × FailureTotals × UInt64 × StateRevision) := do
  let attempt ← self.requireAttempt attemptId
  failIf attempt.failure.isSome .failureAlreadyRecorded
  failIf (¬(attempt.lifecycle = .committed ∨ attempt.lifecycle = .ownerCreated ∨
      attempt.lifecycle = .running)) (.invalidAttemptLifecycle attempt.lifecycle)
  let episode ← self.failureEpisode
  let failureTotals ← self.failureTotals.checkedWithRecord cause
  let consecutiveFailedAttempts ← increment self.consecutiveFailedAttempts
  let nextRevision ← self.nextRevision
  return (attempt, episode, failureTotals, consecutiveFailedAttempts, nextRevision)

/-- `record_failure` in the order of the source: its outcome, and the state it leaves. -/
def recordFailureInPlace (self : RetryState historyCapacity) (attemptId : AttemptId)
    (cause : RetryFailureCause) :
    Except RetryTransitionError Unit × RetryState historyCapacity :=
  match self.checkFailure attemptId cause with
  | .error e => (.error e, self)
  | .ok (attempt, episode, failureTotals, consecutiveFailedAttempts, nextRevision) =>
    let record : FailureRecord := ⟨attemptId, episode.id, cause, attempt.streamStarted⟩
    let changed := { self with
      recoveryEpisode := self.recoveryEpisode.or (some episode)
      failureTotals
      consecutiveFailedAttempts
      recentFailures := self.pushFailure record
      lastFailure := some record }
    -- From here on an error would leave the changes above behind.
    match changed.requireAttempt attemptId with
    | .error e => (.error e, changed)
    | .ok attempt =>
      (.ok (), refreshPostFailurePhase { changed with
        currentAttempt := some { attempt with failure := some cause, lifecycle := .failed }
        phase := if changed.desiredRunning then .failed else changed.phase
        stateRevision := nextRevision })

/-- The episode of a failure is the current one where there is one. -/
theorem or_failureEpisode {s : RetryState historyCapacity} {episode : RecoveryEpisodeState}
    (h : s.failureEpisode = .ok episode) : s.recoveryEpisode.or (some episode) = some episode := by
  unfold failureEpisode at h
  cases hcurrent : s.recoveryEpisode with
  | none => rfl
  | some current =>
    rw [hcurrent] at h
    cases h
    rfl

/-- The checks pass exactly where the failure is recorded, and name what it becomes of. -/
theorem recordFailure_eq (s : RetryState historyCapacity) (attemptId : AttemptId)
    (cause : RetryFailureCause) :
    s.recordFailure attemptId cause = (s.checkFailure attemptId cause).map fun
      (attempt, episode, failureTotals, consecutiveFailedAttempts, nextRevision) =>
        refreshPostFailurePhase { s with
          recoveryEpisode := some episode
          failureTotals
          consecutiveFailedAttempts
          recentFailures := s.pushFailure ⟨attemptId, episode.id, cause, attempt.streamStarted⟩
          lastFailure := some ⟨attemptId, episode.id, cause, attempt.streamStarted⟩
          currentAttempt := some { attempt with failure := some cause, lifecycle := .failed }
          phase := if s.desiredRunning then .failed else s.phase
          stateRevision := nextRevision } := by
  unfold recordFailure checkFailure
  simp only [bind, Except.bind, pure, Except.pure, Except.map]
  repeat' split
  all_goals simp_all

/-- The second look at the attempt finds it: what fails leaves the state as it was. -/
theorem recordFailureInPlace_eq (s : RetryState historyCapacity) (attemptId : AttemptId)
    (cause : RetryFailureCause) :
    s.recordFailureInPlace attemptId cause =
      match s.recordFailure attemptId cause with
      | .ok s' => (.ok (), s')
      | .error e => (.error e, s) := by
  rw [recordFailure_eq]
  unfold recordFailureInPlace
  cases hchecks : s.checkFailure attemptId cause with
  | error e => rfl
  | ok checked =>
    obtain ⟨attempt, episode, failureTotals, consecutiveFailedAttempts, nextRevision⟩ := checked
    unfold checkFailure at hchecks
    obtain ⟨current, hattempt, hchecks⟩ := Result.bind_eq_ok.mp hchecks
    obtain ⟨_, -, hchecks⟩ := Result.bind_eq_ok.mp hchecks
    obtain ⟨_, -, hchecks⟩ := Result.bind_eq_ok.mp hchecks
    obtain ⟨opened, hepisode, hchecks⟩ := Result.bind_eq_ok.mp hchecks
    obtain ⟨_, -, hchecks⟩ := Result.bind_eq_ok.mp hchecks
    obtain ⟨_, -, hchecks⟩ := Result.bind_eq_ok.mp hchecks
    obtain ⟨_, -, hchecks⟩ := Result.bind_eq_ok.mp hchecks
    cases hchecks
    -- The changes keep the attempt that is looked up.
    have hagain : ∀ changed : RetryState historyCapacity,
        changed.currentAttempt = s.currentAttempt →
          changed.requireAttempt attemptId = .ok attempt := by
      intro changed hsame
      unfold requireAttempt at hattempt ⊢
      rw [hsame]
      exact hattempt
    simp only [or_failureEpisode hepisode, Except.map]
    rw [hagain]
    rfl

/-! ## Versions -/

variable {s s' t : RetryState historyCapacity} {events : List Event} {e : Event}

/-- The number of the current generation, and the revision in it. -/
def position (s : RetryState historyCapacity) : ℕ ×ₗ ℕ :=
  toLex (s.intentGeneration.elim 0 (·.get.toNat), s.stateRevision.get.toNat)

/-- Nothing was started where there is no generation. -/
def Numbered (s : RetryState historyCapacity) : Prop :=
  s.intentGeneration.elim 0 (·.get.toNat) = s.lastIntentGeneration.toNat

/-- A step keeps the number of the generation that was started last. -/
theorem Numbered.step (h : s.Numbered) (hstep : (operations historyCapacity).step s e s') :
    s'.Numbered := by
  have hcontinues : ∀ {u : RetryState historyCapacity}, Continues s u → u.Numbered := by
    intro u hu
    unfold Numbered at h ⊢
    rw [hu.generation, hu.last]
    exact h
  cases Effect.of_step hstep with
  | failed operation e => exact h
  | observed snapshot taken => exact h
  | started configurationId g s' next last attempt episode cooldown =>
    rw [operations_step, apply_eq_ok] at hstep
    obtain ⟨⟨generation, u⟩, hu, heq⟩ := Result.map_eq_ok.mp hstep
    cases heq
    obtain ⟨-, hlast, hgeneration, -⟩ := explicitStart_ok hu
    unfold Numbered
    rw [hgeneration, hlast]
    rfl
  | recorded operation s' records => exact hcontinues records.toContinues
  | committed g id s' commits episode => exact hcontinues commits.toContinues
  | recovered authorization id s' commits performs episode n before after =>
    exact hcontinues commits.toContinues
  | required evaluated marker id s' continues named attempt attempt' cooldown episode =>
    exact hcontinues continues
  | satisfied g requirement evidence s' continues current pending attempt cooldown episode =>
    exact hcontinues continues
  | advanced g evidence id previous n s' continues current next before after attempt cooldown =>
    exact hcontinues continues

/-- In every run the position is the version. -/
theorem position_eq_version {s₀ : RetryState historyCapacity}
    (hnew : RetryState.new historyCapacity = .ok s₀)
    (hrun : (operations historyCapacity).Run s₀ events s) : s.position = s.version := by
  have hnumbered : s.Numbered := by
    apply TransitionSystem.Run.invariant _ (fun _ _ _ h hstep => h.step hstep) hrun
    obtain rfl := eq_of_new hnew
    rfl
  unfold position version
  rw [hnumbered]

/-- A run with an event that changes the state makes a later version. -/
theorem version_lt_of_mutates (hrun : (operations historyCapacity).Run s events s')
    (hmutates : ∃ e ∈ events, Mutates e) : s.version < s'.version := by
  obtain ⟨e, hmem, hmutates⟩ := hmutates
  obtain ⟨before, after, rfl⟩ := List.append_of_mem hmem
  obtain ⟨t, hbefore, hrest⟩ := TransitionSystem.run_append.mp hrun
  obtain ⟨u, hstep, hafter⟩ := hrest
  have hle : ∀ {v w : RetryState historyCapacity} {events : List Event},
      (operations historyCapacity).Run v events w → v.version ≤ w.version := by
    intro v w events h
    rcases h.eq_or_lt (fun _ _ _ hstep => eq_or_version_lt hstep) with rfl | hlt
    · exact le_refl _
    · exact hlt.le
  calc s.version ≤ t.version := hle hbefore
    _ < u.version := (Effect.of_step hstep).version_lt hmutates
    _ ≤ s'.version := hle hafter

/-- A run without such an event stays. -/
theorem eq_of_run_not_mutates (hrun : (operations historyCapacity).Run s events s')
    (hkeeps : ∀ e ∈ events, ¬Mutates e) : s' = s := by
  induction events generalizing s with
  | nil => exact (TransitionSystem.run_nil.mp hrun).symm
  | cons e events ih =>
    obtain ⟨t, hstep, hrest⟩ := TransitionSystem.run_cons.mp hrun
    have ht := eq_of_not_mutates hstep (hkeeps e List.mem_cons_self)
    subst ht
    exact ih hrest fun e' he' => hkeeps e' (List.mem_cons_of_mem _ he')

/-! ## Snapshots -/

/-- A snapshot is current for the state it was taken of. -/
theorem isCurrentSnapshot_of_snapshot {snapshot : RetrySnapshot}
    (htaken : s.snapshot = .ok snapshot) : s.isCurrentSnapshot snapshot = true := by
  obtain ⟨hgeneration, hrevision, hconfiguration, -, hattempt, hepisode, -⟩ := snapshot_ok htaken
  unfold isCurrentSnapshot requireCurrentSnapshot
  simp [hgeneration, hrevision, hconfiguration, hattempt, hepisode, okOr, failIf, Except.isOk,
    Except.toBool, bind, Except.bind]

/-- A snapshot that was taken along a run is current exactly until the first change. -/
theorem isCurrentSnapshot_iff {s₀ : RetryState historyCapacity} {before after : List Event}
    {snapshot : RetrySnapshot} (hnew : RetryState.new historyCapacity = .ok s₀)
    (hbefore : (operations historyCapacity).Run s₀ before t) (htaken : t.snapshot = .ok snapshot)
    (hafter : (operations historyCapacity).Run t after s) :
    s.isCurrentSnapshot snapshot = true ↔ ∀ e ∈ after, ¬Mutates e := by
  constructor
  · intro hcurrent e hmem hmutates
    have hlt := version_lt_of_mutates hafter ⟨e, hmem, hmutates⟩
    have hcurrent : s.requireCurrentSnapshot snapshot = .ok () := by
      unfold isCurrentSnapshot at hcurrent
      rcases Result.ok_or_error (s.requireCurrentSnapshot snapshot) with ⟨u, hu⟩ | ⟨error, he⟩
      · exact hu
      · rw [he] at hcurrent
        cases hcurrent
    obtain ⟨hgeneration, hrevision, -⟩ := requireCurrentSnapshot_ok hcurrent
    obtain ⟨htgeneration, htrevision, -⟩ := snapshot_ok htaken
    have hposition : t.position = s.position := by
      unfold position
      rw [hgeneration, htgeneration, ← hrevision, htrevision]
    rw [position_eq_version hnew hbefore, position_eq_version hnew
      (TransitionSystem.run_append.mpr ⟨t, hbefore, hafter⟩)] at hposition
    exact absurd hposition hlt.ne
  · intro hkeeps
    rw [eq_of_run_not_mutates hafter hkeeps]
    exact isCurrentSnapshot_of_snapshot htaken

/-! ## Authorizations -/

/-- An event redeems an authorization of the snapshot: an automatic attempt is committed under it.
-/
def Redeems (snapshot : RetrySnapshot) (e : Event) : Prop :=
  ∃ decision authorization id, snapshot.authorize decision = .ok authorization ∧
    e = (.commitRecoveryAttempt authorization, .ok (.attempt id))

/-- An authorization names the snapshot's position. -/
theorem position_of_redeems {snapshot : RetrySnapshot}
    (hstep : (operations historyCapacity).step s e s') (h : Redeems snapshot e) :
    s.position
      = toLex (snapshot.intentGeneration.get.toNat, snapshot.stateRevision.get.toNat) := by
  obtain ⟨decision, authorization, id, hauthorized, rfl⟩ := h
  rw [operations_step, apply_eq_ok] at hstep
  obtain ⟨⟨id', u⟩, hu, heq⟩ := Result.map_eq_ok.mp hstep
  obtain ⟨hgeneration, hrevision, -⟩ :=
    requireCurrentAuthorization_ok (commitRecoveryAttempt_ok hu).1
  cases decision with
  | remainStopped reason => cases hauthorized
  | wait reason => cases hauthorized
  | permitReplacement reason =>
    cases hauthorized
    unfold position
    rw [hgeneration, ← hrevision]
    rfl

/-- An event that redeems an authorization changes the state. -/
theorem Redeems.mutates {snapshot : RetrySnapshot} (h : Redeems snapshot e) : Mutates e := by
  obtain ⟨decision, authorization, id, -, rfl⟩ := h
  exact ⟨by simp, rfl⟩

/-- No two events of a run redeem authorizations of one snapshot. -/
theorem redeems_once {s₀ : RetryState historyCapacity}
    (hnew : RetryState.new historyCapacity = .ok s₀)
    (hrun : (operations historyCapacity).Run s₀ events s) (snapshot : RetrySnapshot) :
    events.Pairwise fun e e' => ¬(Redeems snapshot e ∧ Redeems snapshot e') := by
  apply TransitionSystem.Run.history
    (I := fun events _ => events.Pairwise fun e e' => ¬(Redeems snapshot e ∧ Redeems snapshot e'))
    .nil _ hrun
  intro events t e t' hevents ih hstep
  refine List.pairwise_append.mpr ⟨ih, List.pairwise_singleton _ _, ?_⟩
  intro e' hmem last hlast hboth
  cases List.mem_singleton.mp hlast
  obtain ⟨hearlier, hlater⟩ := hboth
  -- Both attempts are committed at the snapshot's version, which the first one leaves behind.
  obtain ⟨before, after, rfl⟩ := List.append_of_mem hmem
  obtain ⟨u, hbefore, hrest⟩ := TransitionSystem.run_append.mp hevents
  obtain ⟨v, hfirst, -⟩ := TransitionSystem.run_cons.mp hrest
  have hlt := version_lt_of_mutates hrest ⟨e', List.mem_cons_self, hearlier.mutates⟩
  have hsame : u.position = t.position :=
    (position_of_redeems hfirst hearlier).trans (position_of_redeems hstep hlater).symm
  rw [position_eq_version hnew hbefore, position_eq_version hnew hevents] at hsame
  exact hlt.ne hsame

/-! ## The identities of attempts -/

/-- The order of attempts: by generation, and by number in the generation. -/
def attemptOrder (id : AttemptId) : ℕ ×ₗ ℕ :=
  toLex (id.intentGeneration.get.toNat, id.ordinal.get.toNat)

/-- The last attempt that was started. -/
def lastStarted (s : RetryState historyCapacity) : ℕ ×ₗ ℕ :=
  toLex (s.lastIntentGeneration.toNat, s.attemptsStarted.toNat)

/-- A committed attempt is the next one of the current generation. -/
theorem order_of_commitAttempt {kind : AttemptKind} {id : AttemptId} (hs : s.Coherent)
    (h : s.commitAttempt kind = .ok (id, s')) :
    attemptOrder id = s'.lastStarted ∧ s.lastStarted < s'.lastStarted := by
  unfold commitAttempt at h
  obtain ⟨generation, hgeneration, h⟩ := Result.bind_eq_ok.mp h
  obtain ⟨attemptsStarted, hstarted, h⟩ := Result.bind_eq_ok.mp h
  obtain ⟨episode, -, h⟩ := Result.bind_eq_ok.mp h
  obtain ⟨revision, -, h⟩ := Result.bind_eq_ok.mp h
  cases h
  have hnext := increment_eq_ok.mp hstarted
  have hcurrent := hs.generation generation (okOr_eq_ok.mp hgeneration)
  constructor
  · show toLex (generation.get.toNat, _) = toLex (s.lastIntentGeneration.toNat, _)
    rw [hcurrent]
  · refine Prod.Lex.toLex_lt_toLex.mpr (.inr ⟨rfl, ?_⟩)
    show s.attemptsStarted.toNat < attemptsStarted.toNat
    omega

/-- The refresh starts no attempt. -/
@[simp]
theorem attemptsStarted_refresh (s : RetryState historyCapacity) :
    s.refreshPostFailurePhase.attemptsStarted = s.attemptsStarted := by
  rcases s.refreshPostFailurePhase_eq with heq | ⟨a, -, -, heq⟩ <;> rw [heq]

/-- An operation that records a fact starts no attempt. -/
theorem attemptsStarted_of_done {operation : Operation}
    (h : s.perform operation = .ok (.done, s')) : s'.attemptsStarted = s.attemptsStarted := by
  cases Performs.of_perform h with
  | explicitStop generation ht =>
    obtain ⟨-, revision, rfl⟩ := explicitStop_ok ht
    rfl
  | recordOwnerCreated attemptId ht =>
    obtain ⟨-, a, revision, -, -, -, rfl⟩ := recordOwnerCreated_ok ht
    rfl
  | recordStreamStarted attemptId ht =>
    obtain ⟨-, a, revision, -, -, -, rfl⟩ := recordStreamStarted_ok ht
    rfl
  | recordNormalCompletion attemptId ht =>
    obtain ⟨-, a, revision, -, -, -, -, rfl⟩ := recordNormalCompletion_ok ht
    rfl
  | recordFailure attemptId cause ht =>
    obtain ⟨a, episode, totals, consecutive, revision, -, -, -, -, -, -, -, rfl⟩ :=
      recordFailure_ok ht
    simp
  | recordTerminalEventDelivered attemptId ht =>
    obtain ⟨a, revision, -, -, -, -, -, rfl⟩ := recordTerminalEventDelivered_ok ht
    simp
  | recordCleanupComplete attemptId ht =>
    obtain ⟨a, revision, -, -, -, rfl⟩ := recordCleanupComplete_ok ht
    simp
  | requireCooldown evaluated marker ht =>
    obtain ⟨-, -, a, revision, -, rfl⟩ := requireCooldown_ok ht
    rfl
  | satisfyCooldown generation marker evidence ht =>
    obtain ⟨-, -, requirement, revision, -, -, rfl⟩ := satisfyCooldown_ok ht
    rfl
  | markExhausted evaluated reason ht =>
    obtain ⟨-, -, episode, exhaustion, revision, -, rfl⟩ := markExhausted_ok ht
    rfl

/-- An event that commits an attempt starts the next one, and no event goes back. -/
theorem lastStarted_of_step (hs : s.Coherent) (hstep : (operations historyCapacity).step s e s') :
    s.lastStarted ≤ s'.lastStarted ∧ ∀ id, committedBy e = some id →
      attemptOrder id = s'.lastStarted ∧ s.lastStarted < s'.lastStarted := by
  have hkeeps : s'.lastIntentGeneration = s.lastIntentGeneration →
      s'.attemptsStarted = s.attemptsStarted → s.lastStarted ≤ s'.lastStarted := by
    intro hlast hattempts
    unfold lastStarted
    rw [hlast, hattempts]
  -- Only a start sets the counter back, and it raises the generation.
  cases Effect.of_step hstep with
  | failed operation e => exact ⟨le_refl _, nofun⟩
  | observed snapshot taken => exact ⟨le_refl _, nofun⟩
  | started configurationId g s' next last attempt episode cooldown =>
    refine ⟨le_of_lt (Prod.Lex.toLex_lt_toLex.mpr (.inl ?_)), nofun⟩
    rw [last, next]
    exact Nat.lt_succ_self _
  | recorded operation s' records =>
    rw [operations_step, apply_eq_ok] at hstep
    exact ⟨hkeeps records.last (attemptsStarted_of_done hstep), nofun⟩
  | committed g id s' commits episode =>
    rw [operations_step, apply_eq_ok] at hstep
    obtain ⟨⟨id, u⟩, hu, heq⟩ := Result.map_eq_ok.mp hstep
    cases heq
    have hnext := order_of_commitAttempt hs (commitInitialAttempt_ok hu).2
    refine ⟨hnext.2.le, ?_⟩
    rintro _ ⟨⟩
    exact hnext
  | recovered authorization id s' commits performs episode n before after =>
    have hnext := order_of_commitAttempt hs (commitRecoveryAttempt_ok performs).2.2.2.2
    refine ⟨hnext.2.le, ?_⟩
    rintro _ ⟨⟩
    exact hnext
  | required evaluated marker id s' continues named attempt attempt' cooldown episode =>
    rw [operations_step, apply_eq_ok] at hstep
    exact ⟨hkeeps continues.last (attemptsStarted_of_done hstep), nofun⟩
  | satisfied g requirement evidence s' continues current pending attempt cooldown episode =>
    rw [operations_step, apply_eq_ok] at hstep
    exact ⟨hkeeps continues.last (attemptsStarted_of_done hstep), nofun⟩
  | advanced g evidence id previous n s' continues current next before after attempt cooldown =>
    rw [operations_step, apply_eq_ok] at hstep
    obtain ⟨⟨id, u⟩, hu, heq⟩ := Result.map_eq_ok.mp hstep
    cases heq
    obtain ⟨-, -, -, -, revision, rfl⟩ := advanceRecoveryEpisode_ok hu
    exact ⟨hkeeps rfl rfl, nofun⟩

/-- The committed attempts increase, up to the last one that was started. -/
structure Issued (events : List Event) (s : RetryState historyCapacity) : Prop where
  /-- They increase. -/
  increasing : (events.filterMap committedBy).Pairwise fun id id' =>
    attemptOrder id < attemptOrder id'
  /-- None is ahead of the counter. -/
  started : ∀ id ∈ events.filterMap committedBy, attemptOrder id ≤ s.lastStarted

/-- One more event keeps the order of the attempts. -/
theorem Issued.snoc (h : Issued events s) (hs : s.Coherent)
    (hstep : (operations historyCapacity).step s e s') : Issued (events ++ [e]) s' := by
  obtain ⟨hle, hcommitted⟩ := lastStarted_of_step hs hstep
  cases hid : committedBy e with
  | none =>
    have hsame : (events ++ [e]).filterMap committedBy = events.filterMap committedBy := by
      simp [hid]
    refine ⟨hsame ▸ h.increasing, ?_⟩
    intro id hmem
    rw [hsame] at hmem
    exact (h.started id hmem).trans hle
  | some id =>
    obtain ⟨horder, hlt⟩ := hcommitted id hid
    have hsnoc : (events ++ [e]).filterMap committedBy
        = events.filterMap committedBy ++ [id] := by
      simp [hid]
    constructor
    · rw [hsnoc]
      refine List.pairwise_append.mpr ⟨h.increasing, List.pairwise_singleton _ _, ?_⟩
      intro id' hmem last hlast
      rw [List.mem_singleton.mp hlast, horder]
      exact (h.started id' hmem).trans_lt hlt
    · intro id' hmem
      rw [hsnoc] at hmem
      rcases List.mem_append.mp hmem with hearlier | hlast
      · exact (h.started id' hearlier).trans hle
      · rw [List.mem_singleton.mp hlast, horder]

/-- In every run the committed attempts increase. -/
theorem Issued.of_run {s₀ : RetryState historyCapacity}
    (hnew : RetryState.new historyCapacity = .ok s₀)
    (hrun : (operations historyCapacity).Run s₀ events s) : Issued events s := by
  apply TransitionSystem.Run.history (I := Issued) ⟨.nil, nofun⟩ _ hrun
  intro events t e t' hevents h hstep
  exact h.snoc (Coherent.of_run hnew hevents) hstep

/-! ## The whole statement -/

/-- What holds of snapshots, authorizations and attempts after the events of a run. -/
structure NoABA (events : List Event) (s : RetryState historyCapacity) : Prop where
  /-- A snapshot is current exactly while nothing changed, and is then the state's snapshot. -/
  snapshots : ∀ before snapshot after,
    events = before ++ (.snapshot, .ok (.snapshot snapshot)) :: after →
      (s.isCurrentSnapshot snapshot = true ↔ ∀ e ∈ after, ¬Mutates e) ∧
      (s.isCurrentSnapshot snapshot = true → s.snapshot = .ok snapshot)
  /-- A change raises the position. -/
  advances : ∀ e s', (operations historyCapacity).step s e s' → Mutates e →
    s.position < s'.position
  /-- An operation that fails changes nothing. -/
  atomic : ∀ operation error s',
    (operations historyCapacity).step s (operation, .error error) s' → s' = s
  /-- Nor does the one that has changed the state before its last fallible step. -/
  inPlace : ∀ attemptId cause, s.recordFailureInPlace attemptId cause =
    match s.recordFailure attemptId cause with
    | .ok s' => (.ok (), s')
    | .error e => (.error e, s)
  /-- The authorizations of a snapshot are redeemed at most once. -/
  oneShot : ∀ snapshot,
    events.Pairwise fun e e' => ¬(Redeems snapshot e ∧ Redeems snapshot e')
  /-- The committed attempts increase. -/
  increasing : (events.filterMap committedBy).Pairwise fun id id' =>
    attemptOrder id < attemptOrder id'

/-- After every run, snapshots that are current are the state's, authorizations are redeemed at most
once, and the attempts that were committed increase. -/
theorem retry_snapshots_no_aba {s₀ : RetryState historyCapacity}
    (hnew : RetryState.new historyCapacity = .ok s₀)
    (hrun : (operations historyCapacity).Run s₀ events s) : NoABA events s := by
  refine ⟨?_, ?_, ?_, s.recordFailureInPlace_eq, redeems_once hnew hrun,
    (Issued.of_run hnew hrun).increasing⟩
  · rintro before snapshot after rfl
    obtain ⟨t, hbefore, hrest⟩ := TransitionSystem.run_append.mp hrun
    obtain ⟨u, htakes, hafter⟩ := TransitionSystem.run_cons.mp hrest
    have htaken : t.snapshot = .ok snapshot ∧ u = t := by
      rw [operations_step, apply_eq_ok] at htakes
      obtain ⟨r, hr, heq⟩ := Result.map_eq_ok.mp htakes
      cases heq
      exact ⟨hr, rfl⟩
    obtain ⟨htaken, rfl⟩ := htaken
    have hiff := isCurrentSnapshot_iff hnew hbefore htaken hafter
    refine ⟨hiff, fun hcurrent => ?_⟩
    rw [eq_of_run_not_mutates hafter (hiff.mp hcurrent)]
    exact htaken
  · intro e s' hstep hmutates
    have hafter : (operations historyCapacity).Run s₀ (events ++ [e]) s' :=
      TransitionSystem.run_snoc.mpr ⟨s, hrun, hstep⟩
    rw [position_eq_version hnew hrun, position_eq_version hnew hafter]
    exact (Effect.of_step hstep).version_lt hmutates
  · intro operation error s' hstep
    exact eq_of_apply_error (operations_step.mp hstep)

/-- A start, a snapshot, and the initial attempt. -/
def startScript : List (RetryState 1 → Operation) :=
  [fun _ => .explicitStart ⟨1, .first, 0⟩, fun _ => .snapshot, fun _ => .commitInitialAttempt ⟨1⟩]

/-- The snapshot that the script takes before its attempt is not current after it. -/
theorem retry_snapshots_no_aba_example :
    NoABA (freshState.record startScript).1 (freshState.record startScript).2 :=
  retry_snapshots_no_aba rfl (run_record freshState startScript)

end RetryState

end ResonanceSignal
