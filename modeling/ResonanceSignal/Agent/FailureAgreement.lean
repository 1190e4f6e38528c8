import ResonanceSignal.Agent.ProcessRuns
import ResonanceSignal.Agent.RetryRuns
import ResonanceSignal.Agent.Supervisor

/-!
# Two classifications of one outcome

A capture's outcome is classified twice: in the events that the processing thread emits, and in the
result that it returns, from which the supervisor derives the failure it records. The processing
thread succeeds on every stream that it ended (`LoopStage.Ends`), so the supervisor records a normal
completion for each of them, and the two classifications agree exactly where the stream ended
without an error (`failures_reach_recovery_iff`).

Only a panic of the capture thread after the end of the stream turns such a success into an internal
failure, which is right for the errors of a kind without a class of its own and wrong otherwise.
-/

namespace ResonanceSignal

/-! ## The worker of an owner -/

/-- `run_capture`, once its capture thread runs: the join at the end fails where that thread
panicked. -/
def runCapture (processId : UInt32) (streamSequence : UInt64)
    (deliveries : List (CaptureMessage × Bool)) (panicked : Bool) :
    List StreamEvent × Except CaptureRunError CaptureReport :=
  let (events, result) := processCapture processId streamSequence deliveries
  (events, if panicked then .error .captureThreadPanicked else result)

/-- What an owner's worker makes of the result of its runner. -/
def workerCompletion : Except CaptureRunError CaptureReport → CaptureOwnerCompletion
  | .ok report => .finished report
  | .error error => .failed error

namespace CaptureSupervisor

/-! ## One supervised capture -/

/-- The event of a call. -/
def Call.event : Call → Option StreamEvent
  | observe event => some event
  | _ => none

/-- The calls while the owner runs: its events, and waits that expire. -/
def Call.Pending (c : Call) : Prop :=
  (∃ event, c = .observe event) ∨ ∃ timeout, c = .waitForCompletion (.error timeout)

/-- The calls of one supervised capture without a stop: a start that runs an owner, the owner's
events with waits that expire between them, the wait that finds the owner completed, and further
waits. -/
inductive Supervises (events : List StreamEvent) (completion : CaptureOwnerCompletion) :
    List Call → Prop
  | intro (answer : Except CaptureOwnerShutdownTimeout CaptureOwnerCompletion)
      (pending waits : List Call) (hevents : pending.filterMap Call.event = events)
      (hpending : ∀ c ∈ pending, c.Pending)
      (hwaits : ∀ c ∈ waits, ∃ answer, c = .waitForCompletion answer) :
    Supervises events completion (.start ⟨.ok (), .ok .started, answer⟩ ::
      (pending ++ .waitForCompletion (.ok completion) :: waits))

/-- The retry state of a supervisor with a running owner, before or after it recorded the start of
the stream. -/
def liveRetryState (configurationId : RecoveryConfigurationIdentity) (streamStarted : Bool) :
    RetryState retryHistoryCapacity where
  lastIntentGeneration := 1
  intentGeneration := some ⟨1⟩
  stateRevision := if streamStarted then ⟨4⟩ else ⟨3⟩
  configurationId := some configurationId
  desiredRunning := true
  phase := if streamStarted then .running else .attempting
  attemptsStarted := 1
  currentAttempt := some ⟨⟨⟨1⟩, ⟨1⟩⟩, .explicitStart,
    if streamStarted then .running else .ownerCreated, streamStarted, false, false, none⟩
  recoveryEpisode := none
  lastFailure := none
  recentFailures := []
  failureTotals := .zero
  consecutiveFailedAttempts := 0
  cooldown := .notRequired

/-- A supervisor with a running owner. -/
def live (recoveryConfiguration : RecoveryConfigurationSnapshot)
    (observation : CaptureTerminalObservation) : CaptureSupervisor where
  holdsOnEvent := false
  observation
  hasOwner := true
  state := .running
  recoveryConfiguration
  retryState := liveRetryState recoveryConfiguration.identity false
  resourcesReleased := false
  completion := none
  recoveryEvaluation := none

/-- The retry state of an attempt that completed, with a failure or normally. -/
structure Recorded (failure : Option RetryFailureCause)
    (retryState : RetryState retryHistoryCapacity) : Prop where
  /-- Capture is still wanted. -/
  desiredRunning : retryState.desiredRunning = true
  /-- The generation and its configuration are there. -/
  snapshot : ∃ snapshot, retryState.snapshot = .ok snapshot
  /-- The attempt is there. -/
  attempt : retryState.currentAttempt.isSome
  /-- A failure is counted once. -/
  total : retryState.failureTotals.total = if failure.isSome then 1 else 0
  /-- The failure is kept. -/
  lastFailure : retryState.lastFailure.map FailureRecord.cause = failure

variable {configuration : RecoveryConfigurationSnapshot} {observation : CaptureTerminalObservation}

/-- A supervisor starts inert, with some configuration. -/
theorem withFactory_eq :
    ∃ configuration retryState, RetryState.new retryHistoryCapacity = .ok retryState ∧
      withFactory = some (inert configuration retryState) := by
  have hvalid : (RecoveryConfigurationInput.recoveryDisabled
      recoveryDisabledConfigurationVersion).validate.isOk = true := by
    decide +kernel
  cases hconfiguration : (RecoveryConfigurationInput.recoveryDisabled
      recoveryDisabledConfigurationVersion).validate with
  | error error =>
    rw [hconfiguration] at hvalid
    cases hvalid
  | ok configuration =>
    refine ⟨configuration, _, rfl, ?_⟩
    unfold withFactory
    rw [hconfiguration]
    rfl

/-- A start that runs an owner commits one attempt. -/
theorem start_inert {retryState : RetryState retryHistoryCapacity}
    (h : RetryState.new retryHistoryCapacity = .ok retryState)
    (answer : Except CaptureOwnerShutdownTimeout CaptureOwnerCompletion) :
    (inert configuration retryState).call (.start ⟨.ok (), .ok .started, answer⟩)
      = some (live configuration .default) := by
  cases h
  rfl

/-- Events and waits that expire change what the callback saw, and nothing else. -/
theorem calls_pending (configuration : RecoveryConfigurationSnapshot)
    (observation : CaptureTerminalObservation) {pending : List Call}
    (h : ∀ c ∈ pending, c.Pending) :
    ∃ observation', (live configuration observation).calls pending
      = some (live configuration observation') := by
  induction pending generalizing observation with
  | nil => exact ⟨observation, rfl⟩
  | cons c cs ih =>
    have hcs : ∀ c ∈ cs, c.Pending := fun c hc => h c (List.mem_cons_of_mem _ hc)
    rcases h c List.mem_cons_self with ⟨event, rfl⟩ | ⟨timeout, rfl⟩
    · exact ih (observation.observe event) hcs
    · exact ih observation hcs

/-- The completion of a live attempt is recorded, whatever its callback saw. -/
theorem recordAttemptCompletion_live (configurationId : RecoveryConfigurationIdentity)
    (observation : CaptureTerminalObservation) (completion : CaptureSupervisorCompletion) :
    ∃ retryState,
      recordAttemptCompletion (liveRetryState configurationId false) observation completion
        = some retryState ∧ Recorded (retryFailureFor completion) retryState := by
  unfold recordAttemptCompletion
  generalize retryFailureFor completion = failure
  obtain ⟨started, error, endReason⟩ := observation
  -- Which steps are recorded depends on the two flags alone, and each of them is a computation.
  cases started <;> cases endReason <;> cases failure with
  | none => exact ⟨_, rfl, rfl, ⟨_, rfl⟩, rfl, rfl, rfl⟩
  | some cause => cases cause <;> exact ⟨_, rfl, rfl, ⟨_, rfl⟩, rfl, rfl, rfl⟩

/-- The evaluation of a recorded attempt names its failure. -/
theorem recordRecoveryEvaluation_recorded (self : CaptureSupervisor)
    {completion : CaptureSupervisorCompletion} {failure : Option RetryFailureCause}
    (hcompletion : self.completion = some completion) (h : Recorded failure self.retryState) :
    ∃ evaluation,
      self.recordRecoveryEvaluation = some { self with recoveryEvaluation := some evaluation } ∧
      evaluation.snapshot.cause
        = (failure.map RetryFailureCause.recoveryCause).getD .normalShutdown := by
  obtain ⟨snapshot, hsnapshot⟩ := h.snapshot
  obtain ⟨hgeneration, -, -, -, hcurrent, -, hlast, -, hdesired⟩ := RetryState.snapshot_ok hsnapshot
  obtain ⟨attempt, hattempt⟩ := Option.isSome_iff_exists.mp h.attempt
  have hcause : recoveryCause snapshot
      = (failure.map RetryFailureCause.recoveryCause).getD .normalShutdown := by
    unfold recoveryCause
    rw [hlast, hdesired, h.desiredRunning, ← h.lastFailure]
    cases self.retryState.lastFailure <;> rfl
  rw [← hcurrent] at hattempt
  unfold recordRecoveryEvaluation recoverySnapshot
  rw [hsnapshot]
  simp only [Except.toOption, bind, Option.bind, hattempt, hcompletion, hgeneration]
  exact ⟨_, rfl, hcause⟩

/-- What a supervisor shows of a capture that it recorded: its retry state counts a failure once,
its evaluation names it, and nothing changes any more while it is only waited for. -/
structure Completed (failure : Option RetryFailureCause) (s : CaptureSupervisor) : Prop where
  /-- The retry state. -/
  recorded : Recorded failure s.retryState
  /-- The outcome is kept. -/
  completion : s.completion.isSome
  /-- The lifecycle is over. -/
  state : s.state = .completed
  /-- The evaluation names the failure. -/
  evaluation : ∃ evaluation, s.recoveryEvaluation = some evaluation ∧
    evaluation.snapshot.cause = (failure.map RetryFailureCause.recoveryCause).getD .normalShutdown

/-- A wait after the start is what the owner's completion makes of the supervisor. -/
theorem call_waitForCompletion {self : CaptureSupervisor} (h : self.state ≠ .idle)
    (answer : Except CaptureOwnerShutdownTimeout CaptureOwnerCompletion) :
    self.call (.waitForCompletion answer) = (self.recordOwnerCompletion answer).map Prod.snd := by
  show (self.waitForCompletion answer).map Prod.snd = _
  unfold waitForCompletion
  rw [if_neg h, Option.map_map]
  rfl

/-- The wait that finds the owner completed records its outcome. -/
theorem call_completed (configuration : RecoveryConfigurationSnapshot)
    (observation : CaptureTerminalObservation) (completion : CaptureOwnerCompletion) :
    ∃ self, (live configuration observation).call (.waitForCompletion (.ok completion)) = some self ∧
      Completed (retryFailureFor completion.summary) self := by
  obtain ⟨retryState, hretry, hrecorded⟩ := recordAttemptCompletion_live configuration.identity
    observation completion.summary
  set self : CaptureSupervisor := { live configuration observation with
    completion := some completion.summary
    resourcesReleased := true
    state := .completed
    retryState } with hself
  obtain ⟨evaluation, hevaluation, hcause⟩ :=
    recordRecoveryEvaluation_recorded self rfl hrecorded
  have hrecord : (live configuration observation).recordOwnerCompletion (.ok completion)
      = some (.ok completion.summary, { self with recoveryEvaluation := some evaluation }) := by
    show (recordAttemptCompletion (liveRetryState configuration.identity false) observation
      completion.summary).bind _ = _
    rw [hretry]
    show (self.recordRecoveryEvaluation).bind _ = _
    rw [hevaluation]
    rfl
  refine ⟨{ self with recoveryEvaluation := some evaluation }, ?_, hrecorded, rfl, rfl,
    evaluation, rfl, hcause⟩
  rw [call_waitForCompletion (by rintro ⟨⟩), hrecord]
  rfl

/-- Waiting for a completed owner changes nothing. -/
theorem Completed.calls_waits {failure : Option RetryFailureCause} {self : CaptureSupervisor}
    (h : Completed failure self) {waits : List Call}
    (hwaits : ∀ c ∈ waits, ∃ answer, c = .waitForCompletion answer) :
    self.calls waits = some self := by
  induction waits with
  | nil => rfl
  | cons c cs ih =>
    obtain ⟨answer, rfl⟩ := hwaits c List.mem_cons_self
    obtain ⟨completion, hcompletion⟩ := Option.isSome_iff_exists.mp h.completion
    have hcall : self.call (.waitForCompletion answer) = some self := by
      rw [call_waitForCompletion (by rw [h.state]; rintro ⟨⟩)]
      unfold recordOwnerCompletion
      rw [hcompletion]
      rfl
    unfold calls
    rw [List.foldlM_cons, hcall]
    exact ih fun c hc => hwaits c (List.mem_cons_of_mem _ hc)

/-- Every supervised capture is recorded, without a panic of the supervisor. -/
theorem Supervises.completed {events : List StreamEvent} {completion : CaptureOwnerCompletion}
    {cs : List Call} (h : Supervises events completion cs) :
    ∃ self, withFactory.bind (·.calls cs) = some self ∧
      Completed (retryFailureFor completion.summary) self := by
  obtain ⟨answer, pending, waits, hevents, hpending, hwaits⟩ := h
  obtain ⟨configuration, retryState, hnew, hfactory⟩ := withFactory_eq
  obtain ⟨observation, hobservation⟩ :=
    calls_pending configuration .default hpending
  obtain ⟨self, hcall, hcompleted⟩ :=
    call_completed configuration observation completion
  refine ⟨self, ?_, hcompleted⟩
  calc withFactory.bind (·.calls _)
      = (inert configuration retryState).calls (.start ⟨.ok (), .ok .started, answer⟩ ::
          (pending ++ .waitForCompletion (.ok completion) :: waits)) := by rw [hfactory]; rfl
    _ = (live configuration .default).calls
          (pending ++ .waitForCompletion (.ok completion) :: waits) := by
        unfold calls
        rw [List.foldlM_cons, start_inert hnew]
        rfl
    _ = (live configuration observation).calls
          (.waitForCompletion (.ok completion) :: waits) := by
        unfold calls at hobservation ⊢
        rw [List.foldlM_append, hobservation]
        rfl
    _ = self.calls waits := by
        unfold calls
        rw [List.foldlM_cons, hcall]
        rfl
    _ = some self := hcompleted.calls_waits hwaits

end CaptureSupervisor

/-! ## What the consumer sees -/

/-- The kind of the error with which the capture thread ends a stream. -/
def CaptureEnd.errorKind : CaptureEnd → Option ErrorKind
  | stopRequested => none
  | durationElapsed => none
  | sourceReconfigured => some .streamInterrupted
  | sourceUnavailable => some .sourceUnavailable
  | interrupted => some .streamInterrupted
  | dataDiscontinuity => some .streamInterrupted
  | boundedHandoffExhausted => some .resourceExhausted
  | failed => some .internal

/-- The kind of the error of an ending. -/
def StreamEnding.errorKind : StreamEnding → Option ErrorKind
  | ended termination => termination.end.errorKind
  | failed failure => some failure.kind
  | rejected _ => some .streamInterrupted

/-- The error of an ending is of its kind. -/
theorem StreamEnding.error_kind (sourceId : SourceId) (streamId : StreamId)
    (ending : StreamEnding) :
    (ending.error sourceId streamId).map ProviderError.kind = ending.errorKind := by
  cases ending with
  | failed failure => rfl
  | rejected error => rfl
  | ended termination =>
    obtain ⟨reason, diagnostic⟩ := termination
    cases reason <;> rfl

/-- The consumer received an error before an end. -/
def ErrorBeforeEnd (events : List StreamEvent) (error : ProviderError) : Prop :=
  ∃ before between after streamId reason,
    events = before ++ .error error :: (between ++ .ended streamId reason :: after)

/-- The class of failure that the kind of an error corresponds to. -/
def Corresponds (kind : ErrorKind) (cause : RetryFailureCause) : Prop :=
  match kind with
  | .sourceUnavailable => ∃ unavailable, cause = .deviceUnavailable unavailable
  | .resourceExhausted => cause = .resourceExhausted
  | .streamInterrupted =>
    cause = .interrupted ∨ ∃ reconfiguration, cause = .sourceReconfigured reconfiguration
  | _ => cause = .internalFailure

/-- The supervisor records a failure of its attempt. -/
def CaptureSupervisor.RecordsFailure (s : CaptureSupervisor) : Prop :=
  s.retryState.failureTotals.total = 1 ∧
    ∃ evaluation, s.recoveryEvaluation = some evaluation ∧
      evaluation.snapshot.cause ≠ .normalShutdown

/-- Of a stream that started and ended, the supervisor records a failure exactly where the consumer
received an error before the end, and records it under the class of that error. -/
def FailuresReachRecovery (events : List StreamEvent) (s : CaptureSupervisor) : Prop :=
  (∃ descriptor, .started descriptor ∈ events) → (∃ streamId reason, .ended streamId reason ∈ events) →
    (s.RecordsFailure ↔ ∃ error, ErrorBeforeEnd events error) ∧
    ∀ error, ErrorBeforeEnd events error →
      ∃ record, s.retryState.lastFailure = some record ∧ Corresponds error.kind record.cause

/-- Where the two classifications of a capture agree: its messages do not end a stream, or they end
it without an error and the capture thread does not panic afterwards, or it does panic and the error
is of a kind that corresponds to an internal failure. -/
def ClassificationsAgree (deliveries : List (CaptureMessage × Bool)) (panicked : Bool) : Prop :=
  match (captureEnding deliveries).map StreamEnding.errorKind with
  | none => True
  | some none => panicked = false
  | some (some kind) => panicked = true ∧ Corresponds kind .internalFailure

/-- Events before an ending that are no errors. -/
def NoErrors (events : List StreamEvent) : Prop := ∀ error, StreamEvent.error error ∉ events

/-- The start and the data events of a stream are no errors. -/
theorem noErrors_of_started (processId : UInt32) (streamSequence : UInt64)
    (started : CaptureStarted) (streamId : StreamId) (frames : List AudioFrame) :
    NoErrors (startedEvent processId streamSequence started :: dataEvents streamId frames) := by
  intro error herror
  rcases List.mem_cons.mp herror with h | h
  · cases h
  · obtain ⟨frame, -, h⟩ := List.mem_map.mp h
    cases h

/-- After events that are no errors, the error before the end is the one of the ending. -/
theorem errorBeforeEnd_iff {initial : List StreamEvent} (h : NoErrors initial)
    {sourceId : SourceId} {streamId : StreamId} {ending : StreamEnding} {error : ProviderError} :
    ErrorBeforeEnd (initial ++ ending.events sourceId streamId) error
      ↔ ending.error sourceId streamId = some error := by
  constructor
  · rintro ⟨before, between, after, streamId', reason, hevents⟩
    have hmem : .error error ∈ initial ++ ending.events sourceId streamId := by
      rw [hevents]
      exact List.mem_append_right _ List.mem_cons_self
    unfold StreamEnding.events at hmem
    rcases List.mem_append.mp hmem with hmem | hmem
    · exact absurd hmem (h error)
    · rcases List.mem_append.mp hmem with hmem | hmem
      · obtain ⟨error', herror, heq⟩ := Option.map_eq_some_iff.mp (Option.mem_toList.mp hmem)
        cases heq
        exact herror
      · cases List.mem_singleton.mp hmem
  · intro herror
    refine ⟨initial, [], [], streamId, ending.reason sourceId streamId, ?_⟩
    unfold StreamEnding.events
    rw [herror]
    rfl

namespace CaptureSupervisor

/-- A completed capture records a failure exactly where its outcome is one. -/
theorem Completed.recordsFailure_iff {failure : Option RetryFailureCause} {s : CaptureSupervisor}
    (h : Completed failure s) : s.RecordsFailure ↔ failure.isSome := by
  obtain ⟨evaluation, hevaluation, hcause⟩ := h.evaluation
  have htotal := h.recorded.total
  cases failure with
  | none =>
    refine iff_of_false ?_ (by simp)
    rintro ⟨hone, -⟩
    rw [htotal] at hone
    cases hone
  | some cause =>
    refine iff_of_true ⟨htotal, evaluation, hevaluation, ?_⟩ rfl
    rw [hcause]
    cases cause <;> rintro ⟨⟩

/-- A completed capture keeps the failure of its outcome. -/
theorem Completed.lastFailure_iff {failure : Option RetryFailureCause} {s : CaptureSupervisor}
    (h : Completed failure s) {P : RetryFailureCause → Prop} :
    (∃ record, s.retryState.lastFailure = some record ∧ P record.cause)
      ↔ ∃ cause, failure = some cause ∧ P cause := by
  rw [← h.recorded.lastFailure]
  cases s.retryState.lastFailure with
  | none => simp
  | some record => simp

/-- Where the events end with an ending, failures reach recovery exactly where the outcome is a
failure of the ending's class. -/
theorem Completed.failuresReachRecovery_iff {failure : Option RetryFailureCause}
    {s : CaptureSupervisor} (h : Completed failure s) {initial : List StreamEvent}
    (herrors : NoErrors initial) (hstarted : ∃ descriptor, .started descriptor ∈ initial)
    (sourceId : SourceId) (streamId : StreamId) (ending : StreamEnding) :
    FailuresReachRecovery (initial ++ ending.events sourceId streamId) s
      ↔ match ending.errorKind with
        | none => failure = none
        | some kind => ∃ cause, failure = some cause ∧ Corresponds kind cause := by
  have hended : ∃ streamId' reason,
      .ended streamId' reason ∈ initial ++ ending.events sourceId streamId :=
    ⟨streamId, ending.reason sourceId streamId, by unfold StreamEnding.events; simp⟩
  have hstarted' : ∃ descriptor, .started descriptor ∈ initial ++ ending.events sourceId streamId := by
    obtain ⟨descriptor, hdescriptor⟩ := hstarted
    exact ⟨descriptor, List.mem_append_left _ hdescriptor⟩
  unfold FailuresReachRecovery
  simp only [hended, hstarted', true_implies, errorBeforeEnd_iff herrors, h.recordsFailure_iff,
    h.lastFailure_iff]
  rw [← ending.error_kind sourceId streamId]
  cases ending.error sourceId streamId with
  | none => cases failure <;> simp
  | some error =>
    show _ ↔ ∃ cause, failure = some cause ∧ Corresponds error.kind cause
    constructor
    · rintro ⟨-, hclass⟩
      exact hclass error rfl
    · rintro ⟨cause, rfl, hclass⟩
      refine ⟨iff_of_true rfl ⟨error, rfl⟩, ?_⟩
      rintro error' ⟨⟩
      exact ⟨cause, rfl, hclass⟩

/-- Where no end was received, there is nothing to agree on. -/
theorem failuresReachRecovery_of_no_end {events : List StreamEvent} {s : CaptureSupervisor}
    (h : ∀ streamId reason, StreamEvent.ended streamId reason ∉ events) :
    FailuresReachRecovery events s := by
  rintro - ⟨streamId, reason, hended⟩
  exact absurd hended (h streamId reason)

/-- The failure that the supervisor derives from a run: a panic of the capture thread is an internal
one, and a run that succeeded is none. -/
theorem retryFailureFor_runCapture {result : Except CaptureRunError CaptureReport}
    (h : result.isOk = true) (panicked : Bool) :
    retryFailureFor (workerCompletion
        (if panicked then .error .captureThreadPanicked else result)).summary
      = if panicked then some .internalFailure else none := by
  cases panicked with
  | true => rfl
  | false =>
    cases result with
    | ok report => rfl
    | error error => cases h

/-- What a completed capture recorded agrees with its events exactly where the classifications
agree. -/
theorem Completed.classificationsAgree_iff {processId : UInt32} {streamSequence : UInt64}
    {deliveries : List (CaptureMessage × Bool)} {panicked : Bool} {s : CaptureSupervisor}
    (hcompleted : Completed (retryFailureFor (workerCompletion
      (runCapture processId streamSequence deliveries panicked).2).summary) s) :
    FailuresReachRecovery (runCapture processId streamSequence deliveries panicked).1 s
      ↔ ClassificationsAgree deliveries panicked := by
  -- Without a start there are no events, and nothing to agree on.
  by_cases hstart : ∃ started, deliveries.head?.map Prod.fst = some (.started started)
  · obtain ⟨started, hstart⟩ := hstart
    obtain ⟨delivery, hdelivery, hmessage⟩ := Option.map_eq_some_iff.mp hstart
    obtain ⟨message, recycled⟩ := delivery
    obtain ⟨rest, rfl⟩ := List.head?_eq_some_iff.mp hdelivery
    obtain rfl : message = .started started := hmessage
    obtain ⟨events, result, hrun, ⟨frames, hevents⟩, hresult⟩ :=
      processCapture_started processId streamSequence started recycled rest
    have hrunCapture : runCapture processId streamSequence ((.started started, recycled) :: rest)
        panicked = (startedEvent processId streamSequence started :: events,
          if panicked then .error .captureThreadPanicked else result) := by
      unfold runCapture
      rw [hrun]
    rw [hrunCapture] at hcompleted ⊢
    dsimp only at hevents hresult hcompleted ⊢
    have hinitial := noErrors_of_started processId streamSequence started
      (startedState processId streamSequence started).streamId frames
    unfold ClassificationsAgree
    -- The deliveries decide how the stream ends, if it does.
    cases hending : captureEnding ((.started started, recycled) :: rest) with
    | none =>
      rw [hending] at hevents
      rw [hevents]
      refine iff_of_true (failuresReachRecovery_of_no_end ?_) trivial
      intro streamId reason hended
      simp [dataEvents, startedEvent] at hended
    | some ending =>
      rw [hending] at hevents hresult
      rw [retryFailureFor_runCapture hresult panicked] at hcompleted
      rw [hevents]
      have hiff := hcompleted.failuresReachRecovery_iff hinitial
        ⟨_, List.mem_cons_self⟩ (startedState processId streamSequence started).sourceId
        (startedState processId streamSequence started).streamId ending
      refine hiff.trans ?_
      show _ ↔ match some ending.errorKind with
        | none => True
        | some none => panicked = false
        | some (some kind) => panicked = true ∧ Corresponds kind .internalFailure
      cases ending.errorKind with
      | none => cases panicked <;> simp
      | some kind => cases panicked <;> simp
  · have hnone : captureEnding deliveries = none := by
      unfold captureEnding
      split
      · exact absurd ⟨_, rfl⟩ hstart
      · rfl
    have hevents : (runCapture processId streamSequence deliveries panicked).1 = [] :=
      processCapture_not_started processId streamSequence fun started h => hstart ⟨started, h⟩
    unfold ClassificationsAgree
    rw [hevents, hnone]
    exact iff_of_true (failuresReachRecovery_of_no_end fun _ _ => List.not_mem_nil) trivial

/-- The failures that a consumer sees are failures to recovery exactly where the classifications
agree. -/
theorem failures_reach_recovery_iff (processId : UInt32) (streamSequence : UInt64)
    (deliveries : List (CaptureMessage × Bool)) (panicked : Bool) {cs : List Call}
    (hcalls : Supervises (runCapture processId streamSequence deliveries panicked).1
      (workerCompletion (runCapture processId streamSequence deliveries panicked).2) cs) :
    ∃ s, withFactory.bind (·.calls cs) = some s ∧
      (FailuresReachRecovery (runCapture processId streamSequence deliveries panicked).1 s
        ↔ ClassificationsAgree deliveries panicked) := by
  obtain ⟨s, hs, hcompleted⟩ := hcalls.completed
  exact ⟨s, hs, hcompleted.classificationsAgree_iff⟩

/-- The calls of a capture whose events and completion are observed without a wait between them. -/
def supervisedCalls (outcome : List StreamEvent × Except CaptureRunError CaptureReport) :
    List Call :=
  .start ⟨.ok (), .ok .started, .error ⟨.zero⟩⟩ ::
    (outcome.1.map Call.observe ++ [.waitForCompletion (.ok (workerCompletion outcome.2))])

/-- These calls supervise the capture. -/
theorem supervises_supervisedCalls
    (outcome : List StreamEvent × Except CaptureRunError CaptureReport) :
    Supervises outcome.1 (workerCompletion outcome.2) (supervisedCalls outcome) := by
  refine .intro _ _ [] ?_ ?_ fun _ h => absurd h List.not_mem_nil
  · rw [List.filterMap_map]
    exact List.filterMap_some
  · intro c hc
    obtain ⟨event, -, rfl⟩ := List.mem_map.mp hc
    exact .inl ⟨event, rfl⟩

/-- The messages of a mono capture without packets that ends for a reason. -/
def emptyCapture (reason : CaptureEnd) : List (CaptureMessage × Bool) :=
  [(.started ⟨speakers, "Speakers", 48000, 1, 480, ⟨.rate48k, CaptureFormat.monoLayout⟩⟩, true),
    (.ended ⟨reason, none⟩, true)]

/-- A capture that ends because it is stopped has no failure, and reports none. -/
theorem failures_reach_recovery_iff_example :
    ∃ s, withFactory.bind
        (·.calls (supervisedCalls (runCapture 1 0 (emptyCapture .stopRequested) false))) = some s ∧
      (FailuresReachRecovery (runCapture 1 0 (emptyCapture .stopRequested) false).1 s
        ↔ ClassificationsAgree (emptyCapture .stopRequested) false) :=
  failures_reach_recovery_iff 1 0 (emptyCapture .stopRequested) false
    (supervises_supervisedCalls _)

/-- A lost endpoint is an error to the consumer and a normal completion to the supervisor. -/
theorem failure_not_recorded :
    ¬ ∀ (processId : UInt32) (streamSequence : UInt64)
      (deliveries : List (CaptureMessage × Bool)) (cs : List Call) (s : CaptureSupervisor),
      Supervises (runCapture processId streamSequence deliveries false).1
        (workerCompletion (runCapture processId streamSequence deliveries false).2) cs →
      withFactory.bind (·.calls cs) = some s →
      FailuresReachRecovery (runCapture processId streamSequence deliveries false).1 s := by
  intro h
  have hsupervises :=
    supervises_supervisedCalls (runCapture 1 0 (emptyCapture .sourceUnavailable) false)
  obtain ⟨s, hs, hcompleted⟩ := hsupervises.completed
  have hagree := hcompleted.classificationsAgree_iff.mp (h 1 0 _ _ s hsupervises hs)
  exact absurd hagree.1 Bool.false_ne_true

end CaptureSupervisor

end ResonanceSignal
