import ResonanceSignal.Agent.RetryPhases

/-!
# Stable runs of the retry state

The evidence of a stable run begins a new episode, with a fresh budget of automatic attempts, in the
running phase. A stream that starts enters that phase, and of the facts that end an attempt only a
failure leaves it: a normal completion, a delivered terminal event and a release record the end of
the attempt and keep the phase. `finished_run_counts` is a run where a stream that has completed,
delivered its terminal event and released its resources still counts as a stable run.

`KeepsRunning` is the condition under which a step does not part the phase from the attempt, and
`stable_runs_count_iff` says that it is exact: evidence of a stable run counts only while the stream
is alive in every state of a run, exactly where all steps of the run meet it.
-/

namespace ResonanceSignal

/-- An attempt whose stream started, and of which no end was recorded. -/
structure AttemptState.Streaming (a : AttemptState) : Prop where
  /-- It is running: in particular, it did not complete. -/
  lifecycle : a.lifecycle = .running
  /-- Its stream started. -/
  started : a.streamStarted = true
  /-- It did not fail. -/
  failure : a.failure = none
  /-- Its terminal event was not delivered. -/
  delivered : a.terminalEventDelivered = false
  /-- Its resources were not released. -/
  released : a.resourcesReleased = false

namespace RetryState

variable {historyCapacity : ℕ} {s s' t : RetryState historyCapacity} {events : List Event}
  {e : Event}

/-- Evidence of a stable run counts only while a stream is alive. -/
structure StableRunsCount (s : RetryState historyCapacity) : Prop where
  /-- Where it begins an episode, the stream of the current attempt is alive. -/
  stable : ∀ generation evidence r,
    s.advanceRecoveryEpisode generation (.stableRun evidence) = .ok r →
      ∃ a, s.currentAttempt = some a ∧ a.Streaming
  /-- The stream of the current attempt is alive in the running phase of a wanted intent. -/
  running : s.desiredRunning = true → s.phase = .running →
    ∃ a, s.currentAttempt = some a ∧ a.Streaming

/-- An event that records the end of an attempt, and is no failure. -/
def EndsAttempt : Event → Prop
  | (.recordNormalCompletion _, .ok _) => True
  | (.recordTerminalEventDelivered _, .ok _) => True
  | (.recordCleanupComplete _, .ok _) => True
  | _ => False

/-- An event that records the start of a stream. -/
def StartsStream : Event → Prop
  | (.recordStreamStarted _, .ok _) => True
  | _ => False

/-- The end of an attempt is not recorded in the running phase, nor the start of a wanted stream
whose resources were released. -/
structure KeepsRunning (s : RetryState historyCapacity) (e : Event) : Prop where
  /-- The end of an attempt is recorded in another phase. -/
  ends : EndsAttempt e → s.phase ≠ .running
  /-- A wanted stream starts on resources that it still has. -/
  starts : StartsStream e → s.desiredRunning = true →
    ∀ a, s.currentAttempt = some a → a.resourcesReleased = false

/-- In the running phase the stream of the current attempt is alive. -/
def RunningAlive (s : RetryState historyCapacity) : Prop :=
  s.phase = .running → ∃ a, s.currentAttempt = some a ∧ a.Streaming

/-- Only a wanted intent is running. -/
theorem Phased.desired_of_running (h : s.Phased) (hphase : s.phase = .running) :
    s.desiredRunning = true := by
  cases hdesired : s.desiredRunning with
  | true => rfl
  | false =>
    rcases h.unwanted hdesired with hidle | hstopped
    · simp [hphase] at hidle
    · simp [hphase] at hstopped

/-- A stream that is alive in the running phase is all that stable runs need. -/
theorem stableRunsCount_iff (h : s.Phased) : StableRunsCount s ↔ RunningAlive s := by
  constructor
  · intro hcount hphase
    exact hcount.running (h.desired_of_running hphase) hphase
  · intro halive
    refine ⟨fun generation evidence r hop => halive ?_, fun _ => halive⟩
    obtain ⟨id, t⟩ := r
    have haccepts := advanceRecoveryEpisode_passes hop
    cases hphase : s.phase <;> simp [acceptsReset, hphase] at haccepts ⊢

/-- The refresh leads to the running phase only from itself. -/
theorem phase_of_refresh (hphase : s.refreshPostFailurePhase.phase = .running) :
    s.phase = .running := by
  rcases s.refreshPostFailurePhase_eq with heq | ⟨a, -, -, heq⟩
  · rw [heq] at hphase
    exact hphase
  · rw [heq] at hphase
    cases hphase

/-- A stream that starts on its own resources is alive. -/
theorem streaming_of_start {a : AttemptState} (h : a.Consistent)
    (hlifecycle : a.lifecycle = .ownerCreated) (hreleased : a.resourcesReleased = false) :
    AttemptState.Streaming { a with lifecycle := .running, streamStarted := true } := by
  have hunstarted : a.streamStarted = false := h.unstarted (.inr hlifecycle)
  have hdelivered : a.terminalEventDelivered = false := by
    cases hdelivered : a.terminalEventDelivered with
    | false => rfl
    | true =>
      have hstarted := h.terminal hdelivered
      rw [hunstarted] at hstarted
      cases hstarted
  exact ⟨rfl, rfl, h.failure_none (by simp [hlifecycle]), hdelivered, hreleased⟩

/-- An operation that meets the condition keeps the stream alive in the running phase. -/
theorem RunningAlive.perform (halive : RunningAlive s) (h : s.Phased) {operation : Operation}
    {output : Output} (hkeeps : KeepsRunning s (operation, .ok output))
    (hop : s.perform operation = .ok (output, s')) : RunningAlive s' := by
  cases Performs.of_perform hop with
  | explicitStart configurationId generation hu =>
    obtain ⟨-, -, -, hphase, -⟩ := explicitStart_ok hu
    intro hrunning
    simp [hphase] at hrunning
  | explicitStop generation hu =>
    obtain ⟨-, revision, rfl⟩ := explicitStop_ok hu
    nofun
  | commitInitialAttempt generation id hu =>
    obtain ⟨-, -, episode, attemptsStarted, revision, -, rfl⟩ :=
      commitAttempt_ok (commitInitialAttempt_ok hu).2
    nofun
  | commitRecoveryAttempt authorization id hu =>
    obtain ⟨-, -, episode, attemptsStarted, revision, -, rfl⟩ :=
      commitAttempt_ok (commitRecoveryAttempt_ok hu).2.2.2.2
    nofun
  | recordOwnerCreated attemptId hu =>
    obtain ⟨-, a, revision, ha, -, hlifecycle, rfl⟩ := recordOwnerCreated_ok hu
    intro hphase
    -- In the running phase the owner was created already.
    obtain ⟨b, hb, hstreaming⟩ := halive hphase
    rw [ha, Option.some.injEq] at hb
    subst hb
    cases hlifecycle.symm.trans hstreaming.lifecycle
  | recordStreamStarted attemptId hu =>
    obtain ⟨-, a, revision, ha, -, hlifecycle, rfl⟩ := recordStreamStarted_ok hu
    intro hphase
    have hdesired : s.desiredRunning = true := by
      cases hdesired : s.desiredRunning with
      | true => rfl
      | false =>
        simp only [hdesired, Bool.false_eq_true, if_false] at hphase
        rw [h.desired_of_running hphase] at hdesired
        cases hdesired
    have hreleased := hkeeps.starts trivial hdesired a ha
    exact ⟨_, rfl, streaming_of_start (h.attempt a ha) hlifecycle hreleased⟩
  | recordNormalCompletion attemptId hu =>
    obtain ⟨-, a, revision, -, -, -, -, rfl⟩ := recordNormalCompletion_ok hu
    exact fun hphase => absurd hphase (hkeeps.ends trivial)
  | recordFailure attemptId cause hu =>
    obtain ⟨a, episode, totals, consecutive, revision, -, -, -, -, -, -, -, rfl⟩ :=
      recordFailure_ok hu
    intro hphase
    have hphase : (if s.desiredRunning then RetryPhase.failed else s.phase) = .running :=
      phase_of_refresh hphase
    split_ifs at hphase with hdesired
    exact absurd (h.desired_of_running hphase) hdesired
  | recordTerminalEventDelivered attemptId hu =>
    obtain ⟨a, revision, -, -, -, -, -, rfl⟩ := recordTerminalEventDelivered_ok hu
    exact fun hphase => absurd (phase_of_refresh hphase) (hkeeps.ends trivial)
  | recordCleanupComplete attemptId hu =>
    obtain ⟨a, revision, -, -, -, rfl⟩ := recordCleanupComplete_ok hu
    exact fun hphase => absurd (phase_of_refresh hphase) (hkeeps.ends trivial)
  | requireCooldown evaluated marker hu =>
    obtain ⟨-, -, a, revision, -, rfl⟩ := requireCooldown_ok hu
    exact halive
  | satisfyCooldown generation marker evidence hu =>
    obtain ⟨-, -, requirement, revision, -, -, rfl⟩ := satisfyCooldown_ok hu
    exact halive
  | markExhausted evaluated reason hu =>
    obtain ⟨-, -, episode, exhaustion, revision, -, rfl⟩ := markExhausted_ok hu
    nofun
  | advanceRecoveryEpisode generation evidence id hu =>
    obtain ⟨-, -, -, -, revision, rfl⟩ := advanceRecoveryEpisode_ok hu
    intro hphase
    dsimp only at hphase
    split_ifs at hphase
    exact halive hphase
  | snapshot _ _ => exact halive

/-- A step that meets the condition keeps the stream alive in the running phase. -/
theorem RunningAlive.step (halive : RunningAlive s) (h : s.Phased)
    (hstep : (operations historyCapacity).step s e s') (hkeeps : KeepsRunning s e) :
    RunningAlive s' := by
  obtain ⟨operation, outcome⟩ := e
  rw [operations_step] at hstep
  cases outcome with
  | ok output => exact halive.perform h hkeeps (apply_eq_ok.mp hstep)
  | error error => exact eq_of_apply_error hstep ▸ halive

/-! ## The condition is exact -/

/-- In the running phase the current attempt did not fail. -/
theorem Phased.failure_of_running (h : s.Phased) (hphase : s.phase = .running) {a : AttemptState}
    (ha : s.currentAttempt = some a) : a.failure = none := by
  have hdesired := h.desired_of_running hphase
  cases h.situation hdesired with
  | idle phase attempt episode => simp [phase] at hphase
  | alive b phase attempt failure episode =>
    rw [ha, Option.some.injEq] at attempt
    exact attempt ▸ failure
  | failed b phase attempt failure unready episode => simp [phase] at hphase
  | waiting b phase attempt ready episode => simp [phase] at hphase
  | exhausted b phase attempt ready episode => simp [phase] at hphase

/-- An attempt of the running phase of which an end was recorded is not alive. -/
theorem not_runningAlive {a : AttemptState} (hphase : s.phase = .running)
    (ha : s.currentAttempt = some a) (hended : ¬a.Streaming) : ¬RunningAlive s := by
  intro halive
  obtain ⟨b, hb, hstreaming⟩ := halive hphase
  rw [ha, Option.some.injEq] at hb
  exact hended (hb ▸ hstreaming)

/-- The refresh does not help it: the attempt did not fail. -/
theorem not_runningAlive_refresh {a : AttemptState} (hphase : s.phase = .running)
    (ha : s.currentAttempt = some a) (hfailure : a.failure = none) (hended : ¬a.Streaming) :
    ¬RunningAlive s.refreshPostFailurePhase := by
  rw [refresh_of_unready ha (AttemptState.unready_of_failure_none hfailure)]
  exact not_runningAlive hphase ha hended

/-- The end of an attempt that is recorded in the running phase leaves the phase behind. -/
theorem not_runningAlive_of_ends (h : s.Phased)
    (hstep : (operations historyCapacity).step s e s') (hends : EndsAttempt e)
    (hphase : s.phase = .running) : ¬RunningAlive s' := by
  obtain ⟨operation, outcome⟩ := e
  rw [operations_step] at hstep
  unfold EndsAttempt at hends
  split at hends
  · rename_i attemptId output heq
    cases heq
    obtain ⟨u, hu, heq⟩ := Result.map_eq_ok.mp (apply_eq_ok.mp hstep)
    cases heq
    obtain ⟨-, a, revision, -, -, -, -, rfl⟩ := recordNormalCompletion_ok hu
    exact not_runningAlive hphase rfl fun hstreaming => by cases hstreaming.lifecycle
  · rename_i attemptId output heq
    cases heq
    obtain ⟨u, hu, heq⟩ := Result.map_eq_ok.mp (apply_eq_ok.mp hstep)
    cases heq
    obtain ⟨a, revision, ha, -, -, -, -, rfl⟩ := recordTerminalEventDelivered_ok hu
    have hfailure : a.failure = none := h.failure_of_running hphase ha
    exact not_runningAlive_refresh hphase rfl hfailure fun hstreaming => by
      cases hstreaming.delivered
  · rename_i attemptId output heq
    cases heq
    obtain ⟨u, hu, heq⟩ := Result.map_eq_ok.mp (apply_eq_ok.mp hstep)
    cases heq
    obtain ⟨a, revision, ha, -, -, rfl⟩ := recordCleanupComplete_ok hu
    have hfailure : a.failure = none := h.failure_of_running hphase ha
    exact not_runningAlive_refresh hphase rfl hfailure fun hstreaming => by
      cases hstreaming.released
  · cases hends

/-- A wanted stream that starts on released resources is not alive. -/
theorem not_runningAlive_of_starts {a : AttemptState}
    (hstep : (operations historyCapacity).step s e s') (hstarts : StartsStream e)
    (hdesired : s.desiredRunning = true) (ha : s.currentAttempt = some a)
    (hreleased : a.resourcesReleased = true) : ¬RunningAlive s' := by
  obtain ⟨operation, outcome⟩ := e
  rw [operations_step] at hstep
  unfold StartsStream at hstarts
  split at hstarts
  · rename_i attemptId output heq
    cases heq
    obtain ⟨u, hu, heq⟩ := Result.map_eq_ok.mp (apply_eq_ok.mp hstep)
    cases heq
    obtain ⟨-, b, revision, hb, -, -, rfl⟩ := recordStreamStarted_ok hu
    rw [ha, Option.some.injEq] at hb
    subst hb
    -- The stream starts on an attempt whose resources are gone.
    refine not_runningAlive (if_pos hdesired) rfl fun hstreaming => ?_
    have hkept : a.resourcesReleased = false := hstreaming.released
    rw [hreleased] at hkept
    cases hkept
  · cases hstarts

/-- A step after which the stream is alive in the running phase meets the condition. -/
theorem KeepsRunning.of_step (h : s.Phased) (hstep : (operations historyCapacity).step s e s')
    (halive : RunningAlive s') : KeepsRunning s e := by
  refine ⟨fun hends hphase => not_runningAlive_of_ends h hstep hends hphase halive, ?_⟩
  intro hstarts hdesired a ha
  cases hreleased : a.resourcesReleased with
  | false => rfl
  | true => exact absurd halive (not_runningAlive_of_starts hstep hstarts hdesired ha hreleased)

/-- An event has one next state. -/
theorem run_unique {t t' : RetryState historyCapacity}
    (h : (operations historyCapacity).Run s events t)
    (h' : (operations historyCapacity).Run s events t') : t = t' := by
  refine TransitionSystem.Run.unique (fun u e v v' hv hv' => ?_) h h'
  rw [operations_step] at hv hv'
  exact (Prod.mk.inj (hv.symm.trans hv')).2

/-- Evidence of a stable run counts only while the stream is alive, in every state of a run, exactly
where no step of the run records the end of an attempt in the running phase, or starts a wanted
stream whose resources were released. -/
theorem stable_runs_count_iff {s₀ : RetryState historyCapacity}
    (hnew : RetryState.new historyCapacity = .ok s₀)
    (hrun : (operations historyCapacity).Run s₀ events s) :
    (∀ before after t, events = before ++ after →
        (operations historyCapacity).Run s₀ before t → StableRunsCount t) ↔
      ((operations historyCapacity).restrict KeepsRunning).Run s₀ events s := by
  constructor
  · intro hcount
    apply TransitionSystem.Run.history (S := operations historyCapacity)
      (I := fun before t => (∃ after, events = before ++ after) →
        ((operations historyCapacity).restrict KeepsRunning).Run s₀ before t) _ _ hrun ⟨[], by simp⟩
    · exact fun _ => rfl
    · rintro before t e t' hbefore ih hstep ⟨after, hevents⟩
      have hkept := ih ⟨e :: after, by rw [hevents]; simp⟩
      have hnext : (operations historyCapacity).Run s₀ (before ++ [e]) t' :=
        TransitionSystem.run_snoc.mpr ⟨t, hbefore, hstep⟩
      -- `StableRunsCount` holds of the state after the step, so the step met the condition.
      have halive := (stableRunsCount_iff (Phased.of_run hnew hnext)).mp
        (hcount _ after t' hevents hnext)
      have hkeeps := KeepsRunning.of_step (Phased.of_run hnew hbefore) hstep halive
      exact TransitionSystem.run_snoc.mpr ⟨t, hkept, hstep, hkeeps⟩
  · intro hrestricted before after t hevents hbefore
    rw [hevents] at hrestricted
    obtain ⟨u, hu, -⟩ := TransitionSystem.run_append.mp hrestricted
    -- The operations are deterministic, so the run reaches this state only.
    obtain rfl : u = t := run_unique hu.of_restrict hbefore
    rw [stableRunsCount_iff (Phased.of_run hnew hbefore)]
    apply TransitionSystem.Run.history
      (S := (operations historyCapacity).restrict KeepsRunning) (I := fun _ u => RunningAlive u)
      _ _ hu
    · obtain rfl := eq_of_new hnew
      nofun
    · rintro events u e u' hevents halive ⟨hstep, hkeeps⟩
      exact halive.step (Phased.of_run hnew hevents.of_restrict) hstep hkeeps

/-- A start, an initial attempt, and its stream. -/
def streamingScript : List (RetryState 1 → Operation) :=
  [fun _ => .explicitStart ⟨1, .first, 0⟩,
    fun _ => .commitInitialAttempt ⟨1⟩,
    fun _ => .recordOwnerCreated ⟨⟨1⟩, ⟨1⟩⟩,
    fun _ => .recordStreamStarted ⟨⟨1⟩, ⟨1⟩⟩]

/-- A stream that has started and not ended: its stable runs count. -/
theorem stable_runs_count_iff_example :
    (∀ before after t, (freshState.record streamingScript).1 = before ++ after →
        (operations 1).Run freshState before t → StableRunsCount t) ↔
      ((operations 1).restrict KeepsRunning).Run freshState (freshState.record streamingScript).1
        (freshState.record streamingScript).2 :=
  stable_runs_count_iff rfl (run_record freshState streamingScript)

/-- An attempt that fails, and an automatic one whose stream starts, completes, delivers its
terminal event and releases its resources. -/
def finishedScript : List (RetryState 1 → Operation) :=
  [fun _ => .explicitStart ⟨1, .first, 0⟩,
    fun _ => .commitInitialAttempt ⟨1⟩,
    fun _ => .recordFailure ⟨⟨1⟩, ⟨1⟩⟩ .startupFailure,
    fun _ => .recordCleanupComplete ⟨⟨1⟩, ⟨1⟩⟩,
    fun s => .commitRecoveryAttempt ⟨⟨1⟩, s.stateRevision, ⟨1, .first, 0⟩, some ⟨⟨1⟩, ⟨1⟩⟩,
      some ⟨⟨1⟩, ⟨1⟩⟩, .retryEligible⟩,
    fun _ => .recordOwnerCreated ⟨⟨1⟩, ⟨2⟩⟩,
    fun _ => .recordStreamStarted ⟨⟨1⟩, ⟨2⟩⟩,
    fun _ => .recordNormalCompletion ⟨⟨1⟩, ⟨2⟩⟩,
    fun _ => .recordTerminalEventDelivered ⟨⟨1⟩, ⟨2⟩⟩,
    fun _ => .recordCleanupComplete ⟨⟨1⟩, ⟨2⟩⟩]

/-- The stream of a finished run still counts as a stable run, and refunds the automatic attempt. -/
theorem finished_run_counts :
    (∃ r, (freshState.record finishedScript).2.advanceRecoveryEpisode ⟨1⟩ (.stableRun ⟨0⟩) = .ok r ∧
      (freshState.record finishedScript).2.episodeCount = some (⟨⟨1⟩, ⟨1⟩⟩, 1) ∧
      r.2.episodeCount = some (⟨⟨1⟩, ⟨2⟩⟩, 0)) ∧
    ¬∀ events s, (operations 1).Run freshState events s → StableRunsCount s := by
  constructor
  · exact ⟨_, rfl, by decide, by decide⟩
  · intro hcount
    obtain ⟨a, ha, hstreaming⟩ :=
      (hcount _ _ (run_record freshState finishedScript)).running (by decide) (by decide)
    have hreleased : (freshState.record finishedScript).2.currentAttempt.all
        (·.resourcesReleased) = true := by decide
    rw [ha] at hreleased
    cases hstreaming.released.symm.trans hreleased

end RetryState

end ResonanceSignal
