import ResonanceSignal.Agent.Recovery
import ResonanceSignal.Agent.RetryRuns

/-!
# Recovery storms are impossible

Runs of the retry state in which an automatic attempt is committed only under authorizations that
the policy gave for snapshots of this state, however stale. In every such run an episode commits at
most the configured number of automatic attempts, and an automatic attempt is committed only after
the previous one failed, released its resources, delivered its terminal event and cooled down
(`recovery_storms_impossible`).

Two invariants of the events carry the proof. `CoolsDown` ties the state's cooldown to the events
since the last commit; `Counted` ties the episode's counter to the commits under its identity, and
says that no identity ahead of the current one was used.
-/

namespace ResonanceSignal

namespace RetryState

variable {historyCapacity : ℕ}

/-! ## What the events say -/

/-- The episode in which an event commits an automatic attempt. -/
def recoveredIn : Event → Option RecoveryEpisodeId
  | (.commitRecoveryAttempt authorization, .ok (.attempt _)) => authorization.recoveryEpisode
  | _ => none

/-- The attempt that was committed last. -/
def lastCommitted (events : List Event) : Option AttemptId :=
  (events.filterMap committedBy).getLast?

/-- How many automatic attempts were committed in an episode. -/
def recoveriesIn (episode : RecoveryEpisodeId) (events : List Event) : ℕ :=
  events.countP fun e => recoveredIn e = some episode

/-- No attempt is committed. -/
def NoCommit (events : List Event) : Prop := ∀ e ∈ events, committedBy e = none

/-- A cooldown was required for an attempt, and no attempt was committed since. -/
def CooldownRequired (requirement : CooldownRequirement) (events : List Event) : Prop :=
  ∃ before evaluated after,
    events = before ++ (.requireCooldown evaluated requirement.marker, .ok .done) :: after ∧
      evaluated.currentAttempt.map AttemptState.id = some requirement.attemptId ∧ NoCommit after

/-- A required cooldown was satisfied by evidence for its marker, and no attempt was committed
since. -/
def CooledDown (requirement : CooldownRequirement) (events : List Event) : Prop :=
  ∃ before evidence after,
    events = before ++ (.satisfyCooldown requirement.attemptId.intentGeneration requirement.marker
      evidence, .ok .done) :: after ∧ CooldownRequired requirement before ∧ NoCommit after

/-- Every automatic attempt is committed under an authorization that the policy gave for a snapshot
taken before. -/
def Authorized (configuration : RecoveryConfigurationSnapshot) (events : List Event) : Prop :=
  ∀ before authorization outcome after,
    events = before ++ (.commitRecoveryAttempt authorization, outcome) :: after →
      ∃ snapshot context cause evidence,
        (Operation.snapshot, .ok (Output.snapshot snapshot)) ∈ before ∧
          snapshot.authorize (Recovery.evaluateRecoveryPolicy configuration configuration.identity
            snapshot context cause evidence) = .ok authorization

section Events

variable {events : List Event} {e : Event} {requirement : CooldownRequirement}

/-- One more event that commits nothing. -/
theorem NoCommit.snoc (h : NoCommit events) (he : committedBy e = none) :
    NoCommit (events ++ [e]) := by
  intro e' he'
  rcases List.mem_append.mp he' with hmem | hmem
  · exact h e' hmem
  · rw [List.mem_singleton.mp hmem]
    exact he

/-- A required cooldown stays required while nothing is committed. -/
theorem CooldownRequired.snoc (h : CooldownRequired requirement events)
    (he : committedBy e = none) : CooldownRequired requirement (events ++ [e]) := by
  obtain ⟨before, evaluated, after, rfl, hnamed, hafter⟩ := h
  exact ⟨before, evaluated, after ++ [e], by simp, hnamed, hafter.snoc he⟩

/-- A satisfied cooldown stays satisfied while nothing is committed. -/
theorem CooledDown.snoc (h : CooledDown requirement events) (he : committedBy e = none) :
    CooledDown requirement (events ++ [e]) := by
  obtain ⟨before, evidence, after, rfl, hrequired, hafter⟩ := h
  exact ⟨before, evidence, after ++ [e], by simp, hrequired, hafter.snoc he⟩

/-- An event that commits nothing leaves the last commit. -/
theorem lastCommitted_snoc_none (he : committedBy e = none) :
    lastCommitted (events ++ [e]) = lastCommitted events := by
  simp [lastCommitted, he]

/-- An event that commits an attempt is the last commit. -/
theorem lastCommitted_snoc_some {id : AttemptId} (he : committedBy e = some id) :
    lastCommitted (events ++ [e]) = some id := by
  simp [lastCommitted, he]

/-- An event outside the episode does not count. -/
theorem recoveriesIn_snoc_ne {episode : RecoveryEpisodeId} (he : recoveredIn e ≠ some episode) :
    recoveriesIn episode (events ++ [e]) = recoveriesIn episode events := by
  simp [recoveriesIn, he]

/-- An event of the episode counts. -/
theorem recoveriesIn_snoc_eq {episode : RecoveryEpisodeId} (he : recoveredIn e = some episode) :
    recoveriesIn episode (events ++ [e]) = recoveriesIn episode events + 1 := by
  simp [recoveriesIn, he]

/-- The events before an event of an authorized run are authorized. -/
theorem Authorized.of_append {configuration : RecoveryConfigurationSnapshot} {events' : List Event}
    (h : Authorized configuration (events ++ events')) : Authorized configuration events := by
  rintro before authorization outcome after rfl
  exact h before authorization outcome (after ++ events') (by simp)

/-- Events without an automatic attempt are authorized. -/
theorem Authorized.of_none {configuration : RecoveryConfigurationSnapshot}
    (h : ∀ e ∈ events, ∀ authorization, e.1 ≠ .commitRecoveryAttempt authorization) :
    Authorized configuration events := by
  rintro before authorization outcome after rfl
  have hmem := List.mem_append_right before
    (List.mem_cons_self (a := (Operation.commitRecoveryAttempt authorization, outcome)) (l := after))
  exact absurd rfl (h _ hmem authorization)

/-- One more event, which is authorized where it is an automatic attempt. -/
theorem Authorized.snoc {configuration : RecoveryConfigurationSnapshot}
    (h : Authorized configuration events)
    (he : ∀ authorization, e.1 = .commitRecoveryAttempt authorization →
      ∃ snapshot context cause evidence,
        (Operation.snapshot, .ok (Output.snapshot snapshot)) ∈ events ∧
          snapshot.authorize (Recovery.evaluateRecoveryPolicy configuration configuration.identity
            snapshot context cause evidence) = .ok authorization) :
    Authorized configuration (events ++ [e]) := by
  intro before authorization outcome after heq
  rcases List.eq_nil_or_concat after with rfl | ⟨after, last, rfl⟩
  · obtain ⟨rfl, rfl⟩ := List.append_inj' heq rfl |>.imp id List.singleton_inj.mp
    exact he authorization rfl
  · rw [List.concat_eq_append, ← List.cons_append, ← List.append_assoc] at heq
    obtain ⟨rfl, -⟩ := List.append_inj' heq rfl
    exact h before authorization outcome after rfl

end Events

/-! ## The cooldown and the events -/

section Invariants

variable {s s' : RetryState historyCapacity} {events : List Event} {e : Event}

/-- The attempt and the cooldown of the state are those of the events since the last commit. -/
structure CoolsDown (events : List Event) (s : RetryState historyCapacity) : Prop where
  /-- The current attempt was committed last. -/
  current : ∀ id, s.attemptId = some id → lastCommitted events = some id
  /-- A pending cooldown was required for the current attempt. -/
  pending : ∀ requirement, s.cooldown = .pending requirement →
    s.attemptId = some requirement.attemptId ∧ CooldownRequired requirement events
  /-- A satisfied cooldown was required for the current attempt and satisfied. -/
  satisfied : ∀ requirement evidence, s.cooldown = .satisfied requirement evidence →
    s.attemptId = some requirement.attemptId ∧ CooledDown requirement events

/-- An event that commits nothing and keeps the attempt and the cooldown, or invalidates it. -/
theorem CoolsDown.keep (h : CoolsDown events s) (he : committedBy e = none)
    (hattempt : s'.attemptId = s.attemptId)
    (hcooldown : s'.cooldown = s.cooldown ∨ ∃ requirement, s'.cooldown = .invalidated requirement) :
    CoolsDown (events ++ [e]) s' := by
  refine ⟨?_, ?_, ?_⟩
  · intro id hid
    rw [lastCommitted_snoc_none he]
    exact h.current id (hattempt ▸ hid)
  · intro requirement hpending
    rcases hcooldown with hsame | ⟨_, hinvalid⟩
    · obtain ⟨hid, hrequired⟩ := h.pending requirement (hsame ▸ hpending)
      exact ⟨hattempt ▸ hid, hrequired.snoc he⟩
    · rw [hpending] at hinvalid
      cases hinvalid
  · intro requirement evidence hsatisfied
    rcases hcooldown with hsame | ⟨_, hinvalid⟩
    · obtain ⟨hid, hcooled⟩ := h.satisfied requirement evidence (hsame ▸ hsatisfied)
      exact ⟨hattempt ▸ hid, hcooled.snoc he⟩
    · rw [hsatisfied] at hinvalid
      cases hinvalid

/-- A state with no cooldown, and an attempt that was committed last. -/
theorem CoolsDown.of_notRequired (hcooldown : s.cooldown = .notRequired)
    (hcurrent : ∀ id, s.attemptId = some id → lastCommitted events = some id) :
    CoolsDown events s :=
  ⟨hcurrent, by simp [hcooldown], by simp [hcooldown]⟩

/-- Every step keeps the cooldown and the events together. -/
theorem CoolsDown.step (h : CoolsDown events s) (hs : s.Coherent) (heffect : Effect s e s') :
    CoolsDown (events ++ [e]) s' := by
  cases heffect with
  | failed operation e => exact h.keep rfl rfl (.inl rfl)
  | observed snapshot taken => exact h.keep rfl rfl (.inl rfl)
  | started configurationId g s' next last attempt episode cooldown =>
    exact .of_notRequired cooldown (by simp [attempt])
  | recorded operation s' records => exact h.keep rfl records.attempt records.cooldown
  | committed g id s' commits episode =>
    refine .of_notRequired commits.cooldown fun id' hid' => ?_
    rw [commits.attempt] at hid'
    rw [lastCommitted_snoc_some rfl, hid']
  | recovered authorization id s' commits performs episode n before after =>
    refine .of_notRequired commits.cooldown fun id' hid' => ?_
    rw [commits.attempt] at hid'
    rw [lastCommitted_snoc_some rfl, hid']
  | required evaluated marker id s' continues named attempt attempt' cooldown episode =>
    refine ⟨fun id' hid' => ?_, ?_, by simp [cooldown]⟩
    · rw [lastCommitted_snoc_none rfl]
      exact h.current id' (attempt.trans (attempt'.symm.trans hid'))
    · intro requirement hpending
      rw [cooldown, CooldownState.pending.injEq] at hpending
      subst hpending
      exact ⟨attempt', events, evaluated, [], rfl, named, by simp [NoCommit]⟩
  | satisfied g requirement evidence s' continues current pending attempt cooldown episode =>
    obtain ⟨hid, hrequired⟩ := h.pending requirement pending
    refine ⟨fun id' hid' => ?_, by simp [cooldown], ?_⟩
    · rw [lastCommitted_snoc_none rfl]
      exact h.current id' (attempt ▸ hid')
    · intro requirement' evidence' hsatisfied
      rw [cooldown, CooldownState.satisfied.injEq] at hsatisfied
      obtain ⟨rfl, rfl⟩ := hsatisfied
      -- The attempt is of the current generation, which the evidence names.
      obtain ⟨a, ha, haid⟩ := Option.map_eq_some_iff.mp hid
      have hg := hs.attempt a ha
      rw [haid, current, Option.some.injEq] at hg
      subst hg
      exact ⟨attempt ▸ hid, events, evidence, [], rfl, hrequired, by simp [NoCommit]⟩
  | advanced g evidence id previous n s' continues current next before after attempt cooldown =>
    refine .of_notRequired cooldown fun id' hid' => ?_
    rw [lastCommitted_snoc_none rfl]
    exact h.current id' (attempt ▸ hid')

/-! ## The counter and the events -/

/-- An episode that the state has come to: of an earlier generation, or of the current one and not
ahead of the current episode. -/
def Reached (s : RetryState historyCapacity) (episode : RecoveryEpisodeId) : Prop :=
  episode.intentGeneration.get.toNat < s.lastIntentGeneration.toNat ∨
    episode.intentGeneration.get = s.lastIntentGeneration ∧
      ∃ current n, s.episodeCount = some (current, n) ∧
        episode.ordinal.get.toNat ≤ current.ordinal.get.toNat

/-- The counter of the current episode is the number of automatic attempts committed in it, no
episode has more than the maximum, and none ahead of the current one has any. -/
structure Counted (maximum : ℕ) (events : List Event) (s : RetryState historyCapacity) : Prop where
  /-- No episode commits more automatic attempts than the maximum. -/
  bounded : ∀ episode, recoveriesIn episode events ≤ maximum
  /-- The counter of the current episode counts its automatic attempts. -/
  current : ∀ episode n, s.episodeCount = some (episode, n) → recoveriesIn episode events = n
  /-- An episode with automatic attempts was reached. -/
  reached : ∀ episode, recoveriesIn episode events ≠ 0 → s.Reached episode

variable {maximum : ℕ}

/-- An event that commits no automatic attempt and keeps the episode. -/
theorem Counted.keep (h : Counted maximum events s) (he : recoveredIn e = none)
    (hlast : s'.lastIntentGeneration = s.lastIntentGeneration)
    (hepisode : s'.episodeCount = s.episodeCount) : Counted maximum (events ++ [e]) s' := by
  have hsame : ∀ episode, recoveriesIn episode (events ++ [e]) = recoveriesIn episode events :=
    fun episode => recoveriesIn_snoc_ne (by simp [he])
  refine ⟨fun episode => ?_, fun episode n hn => ?_, fun episode hn => ?_⟩
  · rw [hsame]
    exact h.bounded episode
  · rw [hsame]
    exact h.current episode n (hepisode ▸ hn)
  · rw [hsame] at hn
    unfold Reached
    rw [hlast, hepisode]
    exact h.reached episode hn

/-- An event that commits no automatic attempt and opens an episode that was not reached. -/
theorem Counted.opens (h : Counted maximum events s) (he : recoveredIn e = none)
    {episode : RecoveryEpisodeId} (hfresh : ¬s.Reached episode)
    (hepisode : s'.episodeCount = some (episode, 0))
    (hreached : ∀ old, s.Reached old → s'.Reached old) : Counted maximum (events ++ [e]) s' := by
  have hsame : ∀ episode, recoveriesIn episode (events ++ [e]) = recoveriesIn episode events :=
    fun episode => recoveriesIn_snoc_ne (by simp [he])
  refine ⟨fun old => ?_, fun current n hn => ?_, fun old hn => ?_⟩
  · rw [hsame]
    exact h.bounded old
  · rw [hepisode, Option.some.injEq, Prod.mk.injEq] at hn
    obtain ⟨rfl, rfl⟩ := hn
    rw [hsame]
    by_contra hne
    exact hfresh (h.reached _ hne)
  · rw [hsame] at hn
    exact hreached old (h.reached old hn)

/-- A fresh generation has no episode yet, and every episode so far is of an earlier one. -/
theorem Counted.start (h : Counted maximum events s) (he : recoveredIn e = none)
    (hlast : s'.lastIntentGeneration.toNat = s.lastIntentGeneration.toNat + 1)
    (hepisode : s'.recoveryEpisode = none) : Counted maximum (events ++ [e]) s' := by
  have hsame : ∀ episode, recoveriesIn episode (events ++ [e]) = recoveriesIn episode events :=
    fun episode => recoveriesIn_snoc_ne (by simp [he])
  refine ⟨fun episode => ?_, fun episode n hn => ?_, fun episode hn => ?_⟩
  · rw [hsame]
    exact h.bounded episode
  · simp [episodeCount, hepisode] at hn
  · rw [hsame] at hn
    left
    rcases h.reached episode hn with hlt | ⟨heq, -⟩
    · omega
    · rw [heq]
      omega

/-- An automatic attempt is counted in the current episode, which has attempts left. -/
theorem Counted.recover (h : Counted maximum events s) (hs : s.Coherent)
    {episode : RecoveryEpisodeId} {n : ℕ} (he : recoveredIn e = some episode)
    (hlast : s'.lastIntentGeneration = s.lastIntentGeneration)
    (hbefore : s.episodeCount = some (episode, n)) (hafter : s'.episodeCount = some (episode, n + 1))
    (hn : n < maximum) : Counted maximum (events ++ [e]) s' := by
  have hcount := h.current episode n hbefore
  refine ⟨fun old => ?_, fun current m hm => ?_, fun old hold => ?_⟩
  · by_cases hsame : episode = old
    · subst hsame
      rw [recoveriesIn_snoc_eq he, hcount]
      exact hn
    · rw [recoveriesIn_snoc_ne (by simpa [he] using hsame)]
      exact h.bounded old
  · rw [hafter, Option.some.injEq, Prod.mk.injEq] at hm
    obtain ⟨rfl, rfl⟩ := hm
    rw [recoveriesIn_snoc_eq he, hcount]
  · by_cases hsame : episode = old
    · subst hsame
      obtain ⟨current, hcurrent, heq⟩ := Option.map_eq_some_iff.mp hbefore
      obtain rfl : current.id = episode := congrArg Prod.fst heq
      have hgeneration := hs.generation _ (hs.episode current hcurrent)
      exact .inr ⟨hlast ▸ hgeneration, _, _, hafter, le_refl _⟩
    · rw [recoveriesIn_snoc_ne (by simpa [he] using hsame)] at hold
      rcases h.reached old hold with hlt | ⟨heq, current, m, hm, hle⟩
      · exact .inl (hlast ▸ hlt)
      · rw [hbefore, Option.some.injEq, Prod.mk.injEq] at hm
        obtain ⟨rfl, rfl⟩ := hm
        exact .inr ⟨hlast ▸ heq, _, _, hafter, hle⟩

/-- Every step keeps the counter and the events together, where an automatic attempt is committed
under its episode and with attempts left. -/
theorem Counted.step (h : Counted maximum events s) (hs : s.Coherent) (heffect : Effect s e s')
    (hrecover : ∀ authorization id episode n,
      e = (.commitRecoveryAttempt authorization, .ok (.attempt id)) →
        s.episodeCount = some (episode, n) →
          authorization.recoveryEpisode = some episode ∧ n < maximum) :
    Counted maximum (events ++ [e]) s' := by
  cases heffect with
  | failed operation e =>
    refine h.keep ?_ rfl rfl
    cases operation <;> rfl
  | observed snapshot taken => exact h.keep rfl rfl rfl
  | started configurationId g s' next last attempt episode cooldown =>
    exact h.start rfl (by rw [last, next]) episode
  | recorded operation s' records =>
    have he : recoveredIn (operation, .ok .done) = none := by
      cases operation <;> rfl
    rcases records.episode with hsame | ⟨hnone, g, hg, hopened⟩
    · exact h.keep he records.last hsame
    · -- The first failure of a generation opens its first episode.
      have hgeneration := hs.generation g hg
      have hcount : s.episodeCount = none := by simp [episodeCount, hnone]
      refine h.opens he ?_ hopened ?_
      · rintro (hlt | ⟨-, episode, m, hm, -⟩)
        · rw [hgeneration] at hlt
          omega
        · simp [hcount] at hm
      · rintro old (hlt | ⟨-, episode, m, hm, -⟩)
        · exact .inl (records.last ▸ hlt)
        · simp [hcount] at hm
  | committed g id s' commits episode => exact h.keep rfl commits.last episode
  | recovered authorization id s' commits performs episode n before after =>
    -- The attempt was authorized below the maximum of its episode.
    obtain ⟨hepisode, hn⟩ := hrecover authorization id episode n rfl before
    exact h.recover hs hepisode commits.last before after hn
  | required evaluated marker id s' continues named attempt attempt' cooldown episode =>
    exact h.keep rfl continues.last episode
  | satisfied g requirement evidence s' continues current pending attempt cooldown episode =>
    exact h.keep rfl continues.last episode
  | advanced g evidence id previous n s' continues current next before after attempt cooldown =>
    -- The next episode has a number of its own, above all that were counted.
    have hgeneration := hs.generation _ current
    refine h.opens rfl ?_ after ?_
    · rintro (hlt | ⟨-, episode, m, hm, hle⟩)
      · rw [hgeneration] at hlt
        omega
      · rw [before, Option.some.injEq, Prod.mk.injEq] at hm
        obtain ⟨rfl, rfl⟩ := hm
        omega
    · rintro old (hlt | ⟨heq, episode, m, hm, hle⟩)
      · exact .inl (continues.last ▸ hlt)
      · rw [before, Option.some.injEq, Prod.mk.injEq] at hm
        obtain ⟨rfl, rfl⟩ := hm
        exact .inr ⟨continues.last ▸ heq, _, _, after, by omega⟩

/-! ## The policy and the commits -/

/-- What holds of the attempt that an automatic one replaces, after the events so far. -/
structure Replaceable (events : List Event) (s : RetryState historyCapacity)
    (failed : AttemptState) : Prop where
  /-- It is the current attempt. -/
  current : s.currentAttempt = some failed
  /-- It is the attempt that was committed last. -/
  last : lastCommitted events = some failed.id
  /-- It failed. -/
  failure : failed.failure.isSome
  /-- It released its resources. -/
  released : failed.resourcesReleased
  /-- Its started stream delivered its terminal event. -/
  terminal : failed.streamStarted → failed.terminalEventDelivered
  /-- It cooled down. -/
  cooledDown : ∃ marker, CooledDown ⟨failed.id, marker⟩ events

variable {configuration : RecoveryConfigurationSnapshot} {s₀ : RetryState historyCapacity}

/-- A step that commits an automatic attempt performs the operation. -/
theorem commit_of_step {authorization : RecoveryAuthorization} {id : AttemptId}
    (h : (operations historyCapacity).step s
      (.commitRecoveryAttempt authorization, .ok (.attempt id)) s') :
    s.commitRecoveryAttempt authorization = .ok (id, s') := by
  have hperform := apply_eq_ok.mp (operations_step.mp h)
  obtain ⟨⟨id', t⟩, hcommit, heq⟩ := Result.map_eq_ok.mp hperform
  cases heq
  exact hcommit

/-- An automatic attempt that is committed under an authorization of the policy is permitted by the
state itself: the snapshot that was evaluated is the state's own. -/
theorem permits_of_commit (hnew : RetryState.new historyCapacity = .ok s₀)
    (hrun : (operations historyCapacity).Run s₀ events s) {authorization : RecoveryAuthorization}
    {outcome : Except RetryTransitionError Output} {id : AttemptId}
    (hauthorized : Authorized configuration
      (events ++ [(.commitRecoveryAttempt authorization, outcome)]))
    (hcommit : s.commitRecoveryAttempt authorization = .ok (id, s')) :
    ∃ snapshot, s.snapshot = .ok snapshot ∧ Recovery.Permits configuration snapshot := by
  obtain ⟨snapshot, context, cause, evidence, htaken, hauthorize⟩ :=
    hauthorized events authorization outcome [] rfl
  obtain ⟨before, after, rfl⟩ := List.append_of_mem htaken
  obtain ⟨t, hbefore, hrest⟩ := TransitionSystem.run_append.mp hrun
  obtain ⟨t', hsnapshot, hafter⟩ := TransitionSystem.run_cons.mp hrest
  have hsnapshot := apply_eq_ok.mp (operations_step.mp hsnapshot)
  obtain ⟨taken, htaken, heq⟩ := Result.map_eq_ok.mp hsnapshot
  cases heq
  obtain ⟨hcurrent, hphase, -, -, -⟩ := commitRecoveryAttempt_ok hcommit
  obtain ⟨hgeneration, hrevision, -, -, -⟩ := requireCurrentAuthorization_ok hcurrent
  cases hdecision : Recovery.evaluateRecoveryPolicy configuration configuration.identity snapshot
    context cause evidence with
  | remainStopped reason =>
    rw [hdecision] at hauthorize
    cases hauthorize
  | wait reason =>
    rw [hdecision] at hauthorize
    cases hauthorize
  | permitReplacement reason =>
    rw [hdecision] at hauthorize
    cases hauthorize
    have hsame := snapshot_current hnew hbefore htaken hafter hgeneration hrevision
    refine ⟨snapshot, hsame, Recovery.permits_of_failure ?_ hdecision⟩
    obtain ⟨-, -, -, -, -, -, hlast, -⟩ := snapshot_ok hsame
    -- The waiting phase has a recorded failure.
    have hs := Coherent.of_run hnew hrun
    obtain ⟨a, ha, hready, -⟩ := hs.settled (.inl hphase)
    rw [hlast]
    refine hs.failed a ha ?_
    simp only [AttemptState.readyForEvaluation, Bool.and_eq_true] at hready
    exact hready.1.1

/-- A permission on the state's own snapshot counts in the current episode, with attempts left. -/
theorem attempts_left {snapshot : RetrySnapshot} (hsnapshot : s.snapshot = .ok snapshot)
    (hpermits : Recovery.Permits configuration snapshot) {episode : RecoveryEpisodeId} {n : ℕ}
    (hepisode : s.episodeCount = some (episode, n)) :
    n < configuration.maximumAutomaticRecoveryAttempts.toNat := by
  obtain ⟨-, -, -, -, -, hcurrent, -, -⟩ := snapshot_ok hsnapshot
  obtain ⟨current, hs, heq⟩ := Option.map_eq_some_iff.mp hepisode
  obtain ⟨rfl, rfl⟩ := Prod.mk.inj heq
  have hremaining := hpermits.remaining
  simp only [Recovery.attemptsRemaining, Recovery.automaticAttemptsStarted, hcurrent, hs,
    Bool.and_eq_true, decide_eq_true_eq, UInt64.lt_iff_toNat_lt] at hremaining
  exact hremaining.2

/-- What every authorized run keeps. -/
structure StormFree (configuration : RecoveryConfigurationSnapshot) (events : List Event)
    (s : RetryState historyCapacity) : Prop where
  /-- The cooldown and the events. -/
  cooldown : CoolsDown events s
  /-- The counter and the events. -/
  count : Counted configuration.maximumAutomaticRecoveryAttempts.toNat events s

/-- Every authorized run keeps it. -/
theorem StormFree.of_run (hnew : RetryState.new historyCapacity = .ok s₀)
    (hrun : (operations historyCapacity).Run s₀ events s)
    (hauthorized : Authorized configuration events) : StormFree configuration events s := by
  revert hauthorized
  refine TransitionSystem.Run.history (I := fun events s =>
    Authorized configuration events → StormFree configuration events s) ?_ ?_ hrun
  · intro _
    obtain rfl := RetryState.eq_of_new hnew
    exact ⟨.of_notRequired rfl nofun, ⟨fun _ => Nat.zero_le _, nofun, fun _ h => absurd rfl h⟩⟩
  · intro events t e t' hrun ih hstep hauthorized
    obtain ⟨hcooldown, hcount⟩ := ih hauthorized.of_append
    have ht := Coherent.of_run hnew hrun
    have heffect := Effect.of_step hstep
    refine ⟨hcooldown.step ht heffect, hcount.step ht heffect ?_⟩
    rintro authorization id episode n rfl hepisode
    have hcommit := commit_of_step hstep
    obtain ⟨hcurrent, -⟩ := commitRecoveryAttempt_ok hcommit
    obtain ⟨-, -, -, hnamed, -⟩ := requireCurrentAuthorization_ok hcurrent
    obtain ⟨snapshot, hsnapshot, hpermits⟩ := permits_of_commit hnew hrun hauthorized hcommit
    refine ⟨?_, attempts_left hsnapshot hpermits hepisode⟩
    obtain ⟨current, hs, heq⟩ := Option.map_eq_some_iff.mp hepisode
    obtain ⟨rfl, -⟩ := Prod.mk.inj heq
    rw [hnamed, hs]
    rfl

/-- The attempt that a permitted commit replaces. -/
theorem StormFree.replaceable (h : StormFree configuration events s) (hs : s.Coherent)
    {authorization : RecoveryAuthorization} {id : AttemptId}
    (hcommit : s.commitRecoveryAttempt authorization = .ok (id, s')) {snapshot : RetrySnapshot}
    (hsnapshot : s.snapshot = .ok snapshot) (hpermits : Recovery.Permits configuration snapshot) :
    ∃ failed, Replaceable events s failed := by
  obtain ⟨-, hphase, -⟩ := commitRecoveryAttempt_ok hcommit
  obtain ⟨failed, hcurrent, hready, -⟩ := hs.settled (.inl hphase)
  simp only [AttemptState.readyForEvaluation, Bool.and_eq_true, Bool.or_eq_true,
    Bool.not_eq_true'] at hready
  obtain ⟨⟨hfailure, hreleased⟩, hterminal⟩ := hready
  obtain ⟨requirement, evidence, hsatisfied⟩ := hpermits.satisfied
  obtain ⟨-, -, -, -, -, -, -, hcooldown, -⟩ := snapshot_ok hsnapshot
  obtain ⟨hid, hcooled⟩ := h.cooldown.satisfied requirement evidence (hcooldown ▸ hsatisfied)
  have hfailed : s.attemptId = some failed.id := by simp [attemptId, hcurrent]
  refine ⟨failed, hcurrent, h.cooldown.current _ hfailed, hfailure, hreleased, ?_, ?_⟩
  · intro hstarted
    rcases hterminal with hnot | hdelivered
    · rw [hstarted] at hnot
      cases hnot
    · exact hdelivered
  · rw [hfailed, Option.some.injEq] at hid
    exact ⟨requirement.marker, hid ▸ hcooled⟩

end Invariants

/-- **Recovery storms are impossible.** In a run from a fresh state, of any history capacity, whose
automatic attempts are committed only under authorizations that the policy gave for snapshots of
this state, every episode has at most the configured number of automatic attempts, and each of them
was committed in its episode after the previous attempt had failed, released its resources,
delivered the terminal event of a started stream, and cooled down since it was committed. -/
theorem recovery_storms_impossible {s₀ s : RetryState historyCapacity} {events : List Event}
    (configuration : RecoveryConfigurationSnapshot)
    (hnew : RetryState.new historyCapacity = .ok s₀)
    (hrun : (operations historyCapacity).Run s₀ events s)
    (hauthorized : Authorized configuration events) :
    (∀ episode, recoveriesIn episode events
      ≤ configuration.maximumAutomaticRecoveryAttempts.toNat) ∧
    ∀ before authorization id after,
      events = before ++ (.commitRecoveryAttempt authorization, .ok (.attempt id)) :: after →
        ∃ t, (operations historyCapacity).Run s₀ before t ∧
          (∃ episode, t.recoveryEpisode.map RecoveryEpisodeState.id = some episode ∧
            authorization.recoveryEpisode = some episode) ∧
          ∃ failed, Replaceable before t failed := by
  refine ⟨(StormFree.of_run hnew hrun hauthorized).count.bounded, ?_⟩
  rintro before authorization id after rfl
  obtain ⟨t, hbefore, hrest⟩ := TransitionSystem.run_append.mp hrun
  obtain ⟨t', hstep, -⟩ := TransitionSystem.run_cons.mp hrest
  have hauthorized : Authorized configuration
      (before ++ [(.commitRecoveryAttempt authorization, .ok (.attempt id))]) := by
    rw [List.append_cons] at hauthorized
    exact hauthorized.of_append
  -- The state before the commit is that of a run of its own.
  have hcommit := commit_of_step hstep
  have ht := Coherent.of_run hnew hbefore
  obtain ⟨snapshot, hsnapshot, hpermits⟩ := permits_of_commit hnew hbefore hauthorized hcommit
  refine ⟨t, hbefore, ?_, ?_⟩
  · obtain ⟨hcurrent, -, -, -, happend⟩ := commitRecoveryAttempt_ok hcommit
    obtain ⟨-, -, -, hnamed, -⟩ := requireCurrentAuthorization_ok hcurrent
    obtain ⟨episode, n, hepisode, -⟩ := episodeCount_automatic happend
    obtain ⟨current, hs, heq⟩ := Option.map_eq_some_iff.mp hepisode
    refine ⟨current.id, by rw [hs]; rfl, ?_⟩
    rw [hnamed, hs]
    rfl
  · exact (StormFree.of_run hnew hbefore hauthorized.of_append).replaceable ht hcommit hsnapshot
      hpermits

/-- One automatic attempt an episode, after an interruption and a second's cooldown. -/
def oneAttempt : RecoveryConfiguration where
  version := .first
  attemptBudget := ⟨1, .remainStoppedUntilNewIntent⟩
  cooldown := .required (.fromSecs 1) .newIntent
  backoff := .required (.fixed (.fromSecs 1)) (.fromSecs 1) .forbidden .newIntent
  failureClassification :=
    (FailureClassificationPolicy.uniform .nonRetryable).withClassification .interrupted .retryable
  stableRunReset := .newIntentOnly

/-- The validated configuration. -/
def oneAttemptSnapshot : RecoveryConfigurationSnapshot :=
  ⟨oneAttempt.identity, oneAttempt, by decide +kernel, rfl⟩

/-- The snapshot of a state. -/
def snapshotOf (s : RetryState 1) : RetrySnapshot :=
  s.snapshot.toOption.getD ⟨false, ⟨0⟩, ⟨0⟩, oneAttempt.identity, .idle, 0, none, none, none, [],
    .zero, 0, .notRequired⟩

/-- What the policy says of a state whose interrupted attempt may be replaced. -/
def decisionOf (s : RetryState 1) : RecoveryDecision :=
  Recovery.evaluateRecoveryPolicy oneAttemptSnapshot oneAttempt.identity (snapshotOf s) ⟨true, 1, 1⟩
    .interrupted ⟨some false, none, some true, some true, some .retryNow, none, none, none, none,
      none, none, none, none⟩

/-- An attempt that is interrupted, and cools down. -/
def interruptedScript : List (RetryState 1 → Operation) :=
  [fun _ => .explicitStart oneAttempt.identity, fun _ => .commitInitialAttempt ⟨1⟩,
    fun _ => .recordFailure ⟨⟨1⟩, ⟨1⟩⟩ .interrupted, fun _ => .recordCleanupComplete ⟨⟨1⟩, ⟨1⟩⟩,
    fun s => .requireCooldown (snapshotOf s) ⟨0⟩, fun _ => .satisfyCooldown ⟨1⟩ ⟨0⟩ ⟨0⟩,
    fun _ => .snapshot]

/-- The replacement of the interrupted attempt. -/
def replacement : RecoveryAuthorization :=
  ⟨⟨1⟩, ⟨6⟩, oneAttempt.identity, some ⟨⟨1⟩, ⟨1⟩⟩, some ⟨⟨1⟩, ⟨1⟩⟩, .retryEligible⟩

/-- The events up to the replacement. -/
def interruptedEvents : List Event := (freshState.record interruptedScript).1

/-- The state that is evaluated. -/
def interruptedState : RetryState 1 := (freshState.record interruptedScript).2

/-- The replacement of the interrupted attempt is authorized. -/
theorem authorized_interruptedEvents {outcome : Except RetryTransitionError Output} :
    Authorized oneAttemptSnapshot
      (interruptedEvents ++ [(.commitRecoveryAttempt replacement, outcome)]) := by
  have hpermit : (snapshotOf interruptedState).authorize (decisionOf interruptedState)
      = .ok replacement := by decide +kernel
  have htaken : (Operation.snapshot, .ok (Output.snapshot (snapshotOf interruptedState)))
      ∈ interruptedEvents := by decide +kernel
  have hnone : (interruptedEvents.all fun e =>
      match e.1 with
      | .commitRecoveryAttempt _ => false
      | _ => true) = true := by decide +kernel
  refine (Authorized.of_none fun e he authorization heq => ?_).snoc fun authorization heq => ?_
  · have hne := List.all_eq_true.mp hnone e he
    simp [heq] at hne
  · cases heq
    exact ⟨_, _, _, _, htaken, hpermit⟩

/-- The interrupted attempt is replaced once. -/
theorem recovery_storms_impossible_example :
    ∃ t, (operations 1).Run freshState interruptedEvents t ∧
      (∃ episode, t.recoveryEpisode.map RecoveryEpisodeState.id = some episode ∧
        replacement.recoveryEpisode = some episode) ∧
      ∃ failed, Replaceable interruptedEvents t failed := by
  have hcommit : (interruptedState.apply (.commitRecoveryAttempt replacement)).1
      = .ok (.attempt ⟨⟨1⟩, ⟨2⟩⟩) := by decide +kernel
  have hstep : (operations 1).step interruptedState
      (.commitRecoveryAttempt replacement, .ok (.attempt ⟨⟨1⟩, ⟨2⟩⟩))
      (interruptedState.apply (.commitRecoveryAttempt replacement)).2 :=
    step_of_outcome hcommit
  have hbefore : (operations 1).Run freshState interruptedEvents interruptedState :=
    run_record _ _
  have hrun : (operations 1).Run freshState (interruptedEvents ++
      [(.commitRecoveryAttempt replacement, .ok (.attempt ⟨⟨1⟩, ⟨2⟩⟩))])
      (interruptedState.apply (.commitRecoveryAttempt replacement)).2 :=
    TransitionSystem.run_snoc.mpr ⟨interruptedState, hbefore, hstep⟩
  have hnew : RetryState.new 1 = .ok freshState := rfl
  obtain ⟨-, hcommits⟩ :=
    recovery_storms_impossible oneAttemptSnapshot hnew hrun authorized_interruptedEvents
  exact hcommits interruptedEvents replacement ⟨⟨1⟩, ⟨2⟩⟩ [] rfl

end RetryState

end ResonanceSignal
