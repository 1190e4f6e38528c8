import ResonanceSignal.Agent.CaptureOwner
import ResonanceSignal.Agent.ProcessRuns
import ResonanceSignal.Agent.SupervisorRuns

/-!
# A supervisor over its owner

`CaptureSupervisor` with the owner that its production factory creates (`for_source` and
`WasapiCaptureOwnerFactory`), as one system. The supervisor's calls, the blocking operations of the
owner that they are in, and the steps and events of the owner's worker come in any order; a call
takes the supervisor exclusively, and its drop takes it for good.

What the supervisor expects of its owner is documented at the trait between them, and the owner
keeps it: `Simulates` relates a state to the supervisor after a list of calls whose answers obey
the trait (`Call.Obeys`), and every step keeps it. So what holds after such calls holds here, with
nothing assumed of the owner.
-/

namespace ResonanceSignal

namespace SupervisedCapture

/-! ## The system -/

/-- What the supervisor is doing: nothing, a call that its owner blocks, or its drop, which joins
the worker. -/
inductive Pending
  | idle
  | waiting
  | stopping
  | dropping
  | dropped
deriving DecidableEq

/-- A supervisor, its owner, and the call that blocks. -/
structure State where
  /-- The supervisor. -/
  supervisor : CaptureSupervisor
  /-- The owner, once it was created. -/
  owner : Option CaptureOwner.State
  /-- The call. -/
  call : Pending

/-- The calls of a supervisor, the ends of what its owner blocks on, and the steps and events of the
owner's worker. -/
inductive Action
  | start (spawnError : Option String)
  | waitForCompletion (timeout : Duration)
  | stop (timeout : Duration)
  | drop
  | receive (expired : Bool)
  | join
  | worker (action : CaptureOwner.WorkerAction)
  | emit (event : StreamEvent)

/-- What a step shows: the result of a call, or an `expect` that does not hold. -/
inductive Output
  | silent
  | started (result : Except CaptureSupervisorStartError CaptureSupervisorStart)
  | waited (result : Except CaptureSupervisorWaitError CaptureSupervisorCompletion)
  | stopped (result : Except CaptureOwnerShutdownTimeout CaptureSupervisorCompletion)
  | dropped
  | expectFailed

namespace State

/-- `for_source` -/
def forSource : Option State :=
  CaptureSupervisor.withFactory.map fun supervisor => ⟨supervisor, none, .idle⟩

/-- What a wait of no time answers. -/
def immediate (owner : CaptureOwner.State) :
    Except CaptureOwnerShutdownTimeout CaptureOwnerCompletion :=
  match owner.waitForCompletion Duration.zero with
  | (.waited answer, _) => answer
  | _ => .error ⟨Duration.zero⟩

/-- `start`, with the error of the system where no thread can be spawned. The factory is called
from the beginning alone, and always creates an owner. -/
def start (s : State) (spawnError : Option String) : Output × State :=
  if s.supervisor.state ≠ .idle then (.started (.error (.notIdle s.supervisor.state)), s)
  else
    match CaptureOwner.State.initial.start spawnError with
    | (.started result, owner) =>
      match s.supervisor.start ⟨.ok (), result, immediate owner⟩ with
      | some (result, supervisor) =>
        (.started result, { s with supervisor, owner := some owner })
      | none => (.expectFailed, s)
    | _ => (.expectFailed, s)

/-- The end of `record_owner_completion`: the owner's answer reaches the call that asked for it. -/
def answered (s : State) (answer : Except CaptureOwnerShutdownTimeout CaptureOwnerCompletion) :
    Output × State :=
  match s.supervisor.recordOwnerCompletion answer with
  | none => (.expectFailed, { s with call := .idle })
  | some (outcome, supervisor) =>
    let output :=
      if s.call = .waiting then .waited (outcome.mapError .timeout) else .stopped outcome
    (output, { s with supervisor, call := .idle })

/-- `record_owner_completion`, up to where the owner blocks. An owner is asked only where there is
no outcome yet. -/
def record (s : State) (timeout : Duration) : Output × State :=
  if s.supervisor.completion.isSome then s.answered (.error ⟨timeout⟩)
  else
    match s.owner with
    | none => (.expectFailed, { s with call := .idle })
    | some owner =>
      match owner.waitForCompletion timeout with
      | (.waited answer, owner) => { s with owner := some owner }.answered answer
      | (_, owner) => (.silent, { s with owner := some owner })

/-- `wait_for_completion`, up to where the owner blocks. -/
def waitForCompletion (s : State) (timeout : Duration) : Output × State :=
  if s.supervisor.state = .idle then (.waited (.error .notStarted), s)
  else { s with call := .waiting }.record timeout

/-- `stop`, up to where the owner blocks. Where no owner runs, it is the supervisor's alone. -/
def stop (s : State) (timeout : Duration) : Output × State :=
  if s.supervisor.state = .running ∨ s.supervisor.state = .stopping then
    match s.supervisor.disableRecoveryIntent, s.owner with
    | some supervisor, some owner =>
      { s with
        supervisor := { supervisor with state := .stopping }
        owner := some owner.requestStop
        call := .stopping }.record timeout
    | _, _ => (.expectFailed, s)
  else
    match s.supervisor.stop (.error ⟨timeout⟩) with
    | some (_, outcome, supervisor) => (.stopped outcome, { s with supervisor })
    | none => (.expectFailed, s)

/-- The supervisor is gone, and with it its owner: what is left is the worker, and the channel
without its receiver. -/
def dropped (s : State) : Output × State :=
  (.dropped, { s with
    owner := s.owner.map fun owner => { owner with channel := owner.channel.dropReceiver }
    call := .dropped })

/-- `drop`, of the supervisor and with it of its owner: up to where it joins the worker. -/
def drop (s : State) : Output × State :=
  match s.owner with
  | none => s.dropped
  | some owner =>
    let s := { s with owner := some owner.requestStop }
    if owner.owner.worker then (.silent, { s with call := .dropping }) else s.dropped

/-- `join` returns, to a wait of the owner or to its drop. -/
def join (s : State) : Option (Output × State) :=
  match s.owner with
  | none => none
  | some owner =>
    match s.call, owner.thread with
    | .dropping, some (.exited _) => some s.dropped
    | .dropping, _ => none
    | _, _ =>
      match owner.join with
      | none => none
      | some (.waited answer, owner) => some ({ s with owner := some owner }.answered answer)
      | some (_, owner) => some (.expectFailed, { s with owner := some owner })

/-- `recv_timeout` returns to a wait of the owner. -/
def receive (s : State) (expired : Bool) : Option (Output × State) :=
  match s.owner.bind (·.receive expired) with
  | none => none
  | some (.waited answer, owner) => some ({ s with owner := some owner }.answered answer)
  | some (_, owner) => some (.silent, { s with owner := some owner })

/-- A step of the worker. -/
def workerStep (s : State) (action : CaptureOwner.WorkerAction) : Option (Output × State) :=
  (s.owner.bind (·.workerStep action)).map fun (_, owner) =>
    (.silent, { s with owner := some owner })

/-- The runner passes an event to the callback. -/
def emit (s : State) (event : StreamEvent) : Option (Output × State) :=
  match s.owner.bind (·.thread) with
  | some .running => some (.silent, { s with supervisor := s.supervisor.observe event })
  | _ => none

/-- One step. -/
def step (s : State) : Action → Option (Output × State)
  | .start spawnError => if s.call = .idle then some (s.start spawnError) else none
  | .waitForCompletion timeout =>
    if s.call = .idle then some (s.waitForCompletion timeout) else none
  | .stop timeout => if s.call = .idle then some (s.stop timeout) else none
  | .drop => if s.call = .idle then some s.drop else none
  | .receive expired => s.receive expired
  | .join => s.join
  | .worker action => s.workerStep action
  | .emit event => s.emit event

end State

/-- The supervisor, its owner and the owner's worker. -/
def system : TransitionSystem State (Action × Output) := TransitionSystem.ofFn State.step

/-! ## What the supervisor's own steps make of it -/

variable {a a' : CaptureSupervisor}

/-- The end of an intent changes the retry state alone. -/
theorem disableRecoveryIntent_eq (h : a.disableRecoveryIntent = some a') :
    ∃ retryState, a' = { a with retryState } := by
  unfold CaptureSupervisor.disableRecoveryIntent at h
  split at h
  next =>
    cases h
    exact ⟨a.retryState, rfl⟩
  next =>
    split_ifs at h
    · obtain ⟨retryState, -, h⟩ := Option.bind_eq_some_iff.mp h
      exact ⟨retryState, (Option.some.inj h).symm⟩
    · cases h
      exact ⟨a.retryState, rfl⟩

/-- An evaluation changes the recorded evaluation alone. -/
theorem recordRecoveryEvaluation_eq (h : a.recordRecoveryEvaluation = some a') :
    ∃ evaluation, a' = { a with recoveryEvaluation := evaluation } := by
  unfold CaptureSupervisor.recordRecoveryEvaluation at h
  split at h
  next =>
    cases h
    exact ⟨a.recoveryEvaluation, rfl⟩
  next =>
    obtain ⟨generation, -, h⟩ := Option.bind_eq_some_iff.mp h
    exact ⟨_, (Option.some.inj h).symm⟩

/-- Recording an owner's completion keeps it as the outcome. -/
theorem completion_of_record {completion : CaptureSupervisorCompletion}
    {answer : Except CaptureOwnerShutdownTimeout CaptureOwnerCompletion}
    (h : a.recordOwnerCompletion answer = some (.ok completion, a')) :
    a'.completion = some completion := by
  unfold CaptureSupervisor.recordOwnerCompletion at h
  split at h
  next kept hkept =>
    cases h
    exact hkept
  next =>
    obtain ⟨-, -, h⟩ := Option.bind_eq_some_iff.mp h
    split at h
    next => cases h
    next owned =>
      obtain ⟨retryState, -, h⟩ := Option.bind_eq_some_iff.mp h
      obtain ⟨evaluated, hevaluated, h⟩ := Option.bind_eq_some_iff.mp h
      obtain ⟨evaluation, rfl⟩ := recordRecoveryEvaluation_eq hevaluated
      cases h
      rfl

/-- What the start of an idle supervisor makes of it, up to the call of the owner. -/
def owning (a : CaptureSupervisor) : CaptureSupervisor :=
  { a with
    holdsOnEvent := false
    retryState := CaptureSupervisor.ownedRetryState a.recoveryConfiguration.identity true
    hasOwner := true }

/-- An idle supervisor has its callback, and a fresh retry state. -/
theorem idle_parts (h : a.Lifecycle) (hidle : a.state = .idle) :
    a.holdsOnEvent = true ∧ (owning a).Owned true ∧
      RetryState.new retryHistoryCapacity = .ok a.retryState := by
  cases h with
  | idle state callback completion released evaluation fresh =>
    exact ⟨callback, ⟨rfl, completion, released, evaluation, rfl⟩, fresh⟩
  | owned wanted state => rcases state with state | state <;> rw [hidle] at state <;> cases state
  | stoppedBeforeStart isOver => rw [isOver.state] at hidle; cases hidle
  | settled isOver => rw [isOver.state] at hidle; cases hidle

/-- The start of an idle supervisor whose owner begins its run. -/
theorem start_begins (h : a.Lifecycle) (hidle : a.state = .idle)
    (answer : Except CaptureOwnerShutdownTimeout CaptureOwnerCompletion) :
    ∃ a', a.start ⟨.ok (), .ok .started, answer⟩ = some (.ok .started, a') ∧
      a'.state = .running ∧ a'.Owned true := by
  obtain ⟨hcallback, howned, hfresh⟩ := idle_parts h hidle
  obtain ⟨started, committed, hstarted, hcommitted, hcreated, -⟩ :=
    CaptureSupervisor.start_commits a.recoveryConfiguration.identity hfresh
  refine ⟨{ owning a with state := .running }, ?_, rfl, rfl, howned.completion, howned.released,
    howned.evaluation, rfl⟩
  unfold CaptureSupervisor.start guard
  rw [if_neg (not_not.mpr hidle), hstarted]
  simp only [Except.toOption, bind, Option.bind, hcommitted, hcreated]
  rw [if_pos hcallback]
  rfl

/-- The start of an idle supervisor whose owner could not start, and has completed. -/
theorem start_fails (h : a.Lifecycle) (hidle : a.state = .idle) (error : CaptureOwnerStartError)
    (completion : CaptureOwnerCompletion) :
    ∃ a', a.start ⟨.ok (), .error error, .ok completion⟩ = some (.error (.owner error), a') ∧
      a'.Lifecycle ∧ a'.completion = some completion.summary := by
  obtain ⟨hcallback, howned, hfresh⟩ := idle_parts h hidle
  obtain ⟨started, committed, hstarted, hcommitted, hcreated, -⟩ :=
    CaptureSupervisor.start_commits a.recoveryConfiguration.identity hfresh
  rcases CaptureSupervisor.recordOwnerCompletion_owned howned (.ok completion) with
    ⟨error, herror, -⟩ | ⟨recorded, a', hrecorded, hrecord, hfinishes⟩
  · cases herror
  · cases hrecorded
    refine ⟨a', ?_, hfinishes.lifecycle, completion_of_record hrecord⟩
    unfold owning at hrecord
    unfold CaptureSupervisor.start guard
    rw [if_neg (not_not.mpr hidle), hstarted]
    simp only [Except.toOption, bind, Option.bind, hcommitted, hcreated]
    rw [if_pos hcallback]
    simp only [hrecord]
    rfl

/-! ## The simulation -/

/-- An owner that its own calls and its worker's steps lead to. -/
def Reached (owner : CaptureOwner.State) : Prop :=
  ∃ os, CaptureOwner.system.Run .initial os owner

variable {owner owner' : CaptureOwner.State}

/-- A step of the owner leads to an owner that is reached, from one that is. -/
theorem Reached.step (h : Reached owner) (action : CaptureOwner.Action)
    {output : CaptureOwner.Output} (hstep : owner.step action = some (output, owner')) :
    Reached owner' := by
  obtain ⟨os, hrun⟩ := h
  exact ⟨os ++ [(action, output)], TransitionSystem.run_snoc.mpr ⟨owner, hrun, hstep⟩⟩

/-- A reached owner follows the lifecycle. -/
theorem Reached.lifecycle (h : Reached owner) : CaptureOwner.Lifecycle owner := by
  obtain ⟨os, hrun⟩ := h
  exact CaptureOwner.run_lifecycle hrun

/-- An owner between two calls whose worker was spawned and has not been joined. -/
def unjoined (stop : Bool) (worker : CaptureOwner.Worker)
    (channel : Channel CaptureOwnerCompletion 1) : CaptureOwner.State :=
  ⟨CaptureOwner.busy, stop, some worker, channel, .idle⟩

/-- The worker of an owner is gone, if there was one, and no call waits for it. -/
structure Gone (owner : CaptureOwner.State) : Prop where
  /-- No call waits. -/
  call : owner.call = .idle
  /-- The worker is gone. -/
  exited : ∀ worker, owner.thread = some worker → ∃ panicked, worker = .exited panicked

/-- Then nothing of it makes a step. -/
theorem Gone.stays (h : Gone owner) :
    (∀ expired, owner.receive expired = none) ∧ owner.join = none ∧
      (∀ action, owner.workerStep action = none) ∧ owner.thread ≠ some .running := by
  obtain ⟨hcall, hexited⟩ := h
  obtain ⟨owner, stop, thread, channel, call⟩ := owner
  cases hcall
  cases thread with
  | none => exact ⟨fun _ => rfl, rfl, fun _ => rfl, by rintro ⟨⟩⟩
  | some worker =>
    obtain ⟨panicked, rfl⟩ := hexited worker rfl
    exact ⟨fun _ => rfl, rfl, fun _ => rfl, by rintro ⟨⟩⟩

/-- A supervisor after calls that obey the trait of its owner, and a state of the system: before an
owner is there, between two calls while the worker runs, in a wait or a stop that the owner blocks,
after the owner completed, and in and after the drop. -/
inductive Simulates (a : CaptureSupervisor) : State → Prop
  | unowned (h : a.Lifecycle)
      (hstate : a.state = .idle ∨ a.completion = some .stoppedBeforeStart) :
      Simulates a ⟨a, none, .idle⟩
  | ready (wanted stop : Bool) (worker : CaptureOwner.Worker)
      (channel : Channel CaptureOwnerCompletion 1)
      (hstate : a.state = .running ∨ a.state = .stopping) (howned : a.Owned wanted)
      (hreached : Reached (unjoined stop worker channel)) (hstop : wanted = false → stop = true) :
      Simulates a ⟨a, some (unjoined stop worker channel), .idle⟩
  | waiting (wanted : Bool) (owner : CaptureOwner.State)
      (hstate : a.state = .running ∨ a.state = .stopping) (howned : a.Owned wanted)
      (hreached : Reached owner) (hblocked : CaptureOwner.Blocked owner)
      (hstop : wanted = false → owner.stopRequested = true) :
      Simulates a ⟨a, some owner, .waiting⟩
  | stopping (stopped : CaptureSupervisor) (wanted : Bool) (owner : CaptureOwner.State)
      (hstate : a.state = .running ∨ a.state = .stopping) (howned : a.Owned wanted)
      (hstopped : stopped.Owned false)
      (hdisabled : a.disableRecoveryIntent.map ({ · with state := .stopping }) = some stopped)
      (hreached : Reached owner) (hblocked : CaptureOwner.Blocked owner)
      (hstop : owner.stopRequested = true) :
      Simulates a ⟨stopped, some owner, .stopping⟩
  | joined (h : a.Lifecycle) (owner : CaptureOwner.State) (completion : CaptureOwnerCompletion)
      (hreached : Reached owner) (hjoined : CaptureOwner.Joined completion owner)
      (hcompletion : a.completion = some completion.summary) :
      Simulates a ⟨a, some owner, .idle⟩
  | dropping (wanted : Bool) (worker : CaptureOwner.Worker)
      (channel : Channel CaptureOwnerCompletion 1)
      (hstate : a.state = .running ∨ a.state = .stopping) (howned : a.Owned wanted)
      (hreached : Reached (unjoined true worker channel)) :
      Simulates a ⟨a, some (unjoined true worker channel), .dropping⟩
  | dropped (h : a.Lifecycle) (owner : Option CaptureOwner.State)
      (hgone : ∀ left, owner = some left → Gone left) : Simulates a ⟨a, owner, .dropped⟩

/-- The intent to capture has ended. -/
def Ended (a : CaptureSupervisor) : Prop := a.state ≠ .idle ∧ a.desiredRunning = false

/-- One step of the system, as calls of the supervisor. -/
structure Moves (a : CaptureSupervisor) (s : State) (l : Action × Output) (s' : State) :
    Prop where
  /-- The calls obey the trait, and lead to what the next state simulates. -/
  simulates : ∃ cs a', (∀ c ∈ cs, CaptureSupervisor.Call.Obeys c) ∧ a.calls cs = some a' ∧
    Simulates a' s'
  /-- No `expect` fails. -/
  no_panic : l.2 ≠ .expectFailed
  /-- A call that succeeds returns the outcome that is kept. -/
  returned : ∀ completion, l.2 = .waited (.ok completion) ∨ l.2 = .stopped (.ok completion) →
    s'.supervisor.completion = some completion
  /-- A stop ends the intent for good. -/
  ended : Ended s.supervisor ∨ (∃ timeout, l.1 = .stop timeout) → Ended s'.supervisor

variable {s s' : State} {l : Action × Output}

/-- What a step shows other than the outcome or a failed `expect`. -/
def Output.Plain (output : Output) : Prop :=
  output ≠ .expectFailed ∧
    ∀ completion, output ≠ .waited (.ok completion) ∧ output ≠ .stopped (.ok completion)

/-- A step that leaves the supervisor as it is. -/
theorem Moves.of_same (h : Simulates a s') (hsame : s'.supervisor = s.supervisor)
    (hplain : l.2.Plain) (hstop : ∀ timeout, l.1 ≠ .stop timeout) : Moves a s l s' where
  simulates := ⟨[], a, by rintro _ ⟨⟩, rfl, h⟩
  no_panic := hplain.1
  returned completion hreturned := by
    rcases hreturned with hreturned | hreturned
    · exact absurd hreturned (hplain.2 completion).1
    · exact absurd hreturned (hplain.2 completion).2
  ended hended := by
    rcases hended with hended | ⟨timeout, htimeout⟩
    · rwa [hsame]
    · exact absurd htimeout (hstop timeout)

/-- A step that shows nothing and leaves the supervisor as it is. -/
theorem Moves.silent {action : Action} (h : Simulates a s')
    (hsame : s'.supervisor = s.supervisor) (hstop : ∀ timeout, action ≠ .stop timeout) :
    Moves a s (action, .silent) s' :=
  .of_same h hsame ⟨by rintro ⟨⟩, fun _ => ⟨by rintro ⟨⟩, by rintro ⟨⟩⟩⟩ hstop

/-- A step that is one call of the supervisor. -/
theorem Moves.of_call {c : CaptureSupervisor.Call} (hobeys : c.Obeys) (hcall : a.call c = some a')
    (h : Simulates a' s') (hpanic : l.2 ≠ .expectFailed)
    (hreturned : ∀ completion, l.2 = .waited (.ok completion) ∨ l.2 = .stopped (.ok completion) →
      s'.supervisor.completion = some completion)
    (hended : Ended s.supervisor ∨ (∃ timeout, l.1 = .stop timeout) → Ended s'.supervisor) :
    Moves a s l s' where
  simulates := by
    refine ⟨[c], a', ?_, ?_, h⟩
    · intro d hd
      rw [List.mem_singleton] at hd
      exact hd ▸ hobeys
    · show (a.call c).bind _ = _
      rw [hcall]
      rfl
  no_panic := hpanic
  returned := hreturned
  ended := hended

/-- A supervisor with an outcome has ended its lifecycle. -/
theorem over_of_completion (h : a.Lifecycle) (hcompletion : a.completion.isSome) : a.Over := by
  cases h with
  | idle state callback completion => rw [completion] at hcompletion; cases hcompletion
  | owned wanted state owned => rw [owned.completion] at hcompletion; cases hcompletion
  | stoppedBeforeStart isOver => exact isOver
  | settled isOver => exact isOver

/-- The fields of an owner that has begun its run, or has failed to. -/
theorem start_initial :
    CaptureOwner.State.initial.start none
      = (.started (.ok .started), unjoined false .spawned .empty) ∧
    ∀ error, CaptureOwner.State.initial.start (some error) = (.started (.error (.spawn error)),
      ⟨CaptureOwner.done (.startFailed error), false, none, .empty, .idle⟩) :=
  ⟨rfl, fun _ => rfl⟩

/-- A supervisor that was started refuses another start. -/
theorem start_refused (h : s.supervisor.state ≠ .idle) (spawnError : Option String) :
    s.start spawnError = (.started (.error (.notIdle s.supervisor.state)), s) := by
  unfold State.start
  exact if_pos h

/-- A start keeps the simulation. -/
theorem Simulates.start (h : Simulates a s) (hcall : s.call = .idle) (spawnError : Option String) :
    Moves a s (.start spawnError, (s.start spawnError).1) (s.start spawnError).2 := by
  have hrefused (hne : s.supervisor.state ≠ .idle) :
      Moves a s (.start spawnError, (s.start spawnError).1) (s.start spawnError).2 := by
    rw [start_refused hne]
    exact .of_same h rfl ⟨by rintro ⟨⟩, fun _ => ⟨by rintro ⟨⟩, by rintro ⟨⟩⟩⟩ (by rintro _ ⟨⟩)
  cases h with
  | unowned hlifecycle hstate =>
    rcases hstate with hidle | hcompletion
    · have hended {a' : CaptureSupervisor} {output : Output} :
          Ended a ∨ (∃ timeout, (Action.start spawnError, output).1 = .stop timeout) →
            Ended a' := by
        rintro (⟨hne, -⟩ | ⟨timeout, ⟨⟩⟩)
        exact absurd hidle hne
      cases spawnError with
      | none =>
        obtain ⟨a', hstart, hrunning, howned⟩ :=
          start_begins hlifecycle hidle (.error ⟨Duration.zero⟩)
        have hresult : State.start ⟨a, none, .idle⟩ none = (.started (.ok .started),
            ⟨a', some (unjoined false .spawned .empty), .idle⟩) := by
          have himmediate : State.immediate (unjoined false .spawned .empty)
              = .error ⟨Duration.zero⟩ := rfl
          unfold State.start
          rw [if_neg (not_not.mpr hidle), start_initial.1]
          dsimp only
          rw [himmediate, hstart]
        rw [hresult]
        exact .of_call (c := .start ⟨.ok (), .ok .started, .error ⟨Duration.zero⟩⟩) (.inl rfl)
          (congrArg (Option.map Prod.snd) hstart)
          (.ready true false .spawned .empty (.inl hrunning) howned
            ⟨[(.start none, .started (.ok .started))], _, rfl, rfl⟩ (by rintro ⟨⟩))
          (by rintro ⟨⟩) (by rintro completion (h | h) <;> cases h) hended
      | some error =>
        obtain ⟨a', hstart, hlast, hcompletion⟩ :=
          start_fails hlifecycle hidle (.spawn error) (.startFailed error)
        have hresult : State.start ⟨a, none, .idle⟩ (some error) =
            (.started (.error (.owner (.spawn error))),
            ⟨a', some ⟨CaptureOwner.done (.startFailed error), false, none, .empty, .idle⟩,
              .idle⟩) := by
          have himmediate : State.immediate
              ⟨CaptureOwner.done (.startFailed error), false, none, .empty, .idle⟩
                = .ok (.startFailed error) := rfl
          unfold State.start
          rw [if_neg (not_not.mpr hidle), start_initial.2]
          dsimp only
          rw [himmediate, hstart]
        rw [hresult]
        exact .of_call (c := .start ⟨.ok (), .error (.spawn error), .ok (.startFailed error)⟩)
          (.inr rfl) (congrArg (Option.map Prod.snd) hstart)
          (.joined hlast _ _ ⟨[(.start (some error), .started (.error (.spawn error)))], _, rfl, rfl⟩
            ⟨rfl, rfl, by rintro _ ⟨⟩⟩ hcompletion)
          (by rintro ⟨⟩) (by rintro completion (h | h) <;> cases h) hended
    · have hover := over_of_completion hlifecycle (by simp [hcompletion])
      exact hrefused (by simp [hover.state])
  | ready wanted stop worker channel hstate =>
    exact hrefused (by rcases hstate with h | h <;> simp [h])
  | joined hlifecycle owner completion hreached hjoined hcompletion =>
    have hover := over_of_completion hlifecycle (by simp [hcompletion])
    exact hrefused (by simp [hover.state])
  | _ => cases hcall

/-- What an owned supervisor wants. -/
theorem owned_desiredRunning {wanted : Bool} (h : a.Owned wanted) : a.desiredRunning = wanted := by
  unfold CaptureSupervisor.desiredRunning
  rw [h.retryState]
  cases wanted <;> rfl

/-- What the end of a wait or a stop makes of a state whose owner has its completion. -/
theorem answered_ok {wanted : Bool} {stopped : CaptureSupervisor} (h : stopped.Owned wanted)
    (owner : CaptureOwner.State) (call : Pending) (completion : CaptureOwnerCompletion) :
    ∃ a', stopped.recordOwnerCompletion (.ok completion) = some (.ok completion.summary, a') ∧
      a'.Lifecycle ∧ a'.completion = some completion.summary ∧
      (stopped.desiredRunning = false → Ended a') ∧
      State.answered ⟨stopped, some owner, call⟩ (.ok completion) =
        (if call = .waiting then .waited (.ok completion.summary)
          else .stopped (.ok completion.summary), ⟨a', some owner, .idle⟩) := by
  rcases CaptureSupervisor.recordOwnerCompletion_owned h (.ok completion) with
    ⟨error, herror, -⟩ | ⟨recorded, a', hrecorded, hrecord, hfinishes⟩
  · cases herror
  · cases hrecorded
    refine ⟨a', hrecord, hfinishes.lifecycle, completion_of_record hrecord, ?_, ?_⟩
    · intro hdesired
      refine ⟨by simp [hfinishes.isOver.state], hfinishes.desiredRunning.trans ?_⟩
      exact (owned_desiredRunning h).symm.trans hdesired
    unfold State.answered
    rw [hrecord]
    rfl

/-- A wait or a stop that its owner did not answer in time changes nothing more. -/
theorem answered_error {wanted : Bool} {stopped : CaptureSupervisor} (h : stopped.Owned wanted)
    (owner : CaptureOwner.State) (call : Pending) (error : CaptureOwnerShutdownTimeout) :
    stopped.recordOwnerCompletion (.error error) = some (.error error, stopped) ∧
      State.answered ⟨stopped, some owner, call⟩ (.error error) =
        (if call = .waiting then .waited (.error (.timeout error)) else .stopped (.error error),
          ⟨stopped, some owner, .idle⟩) := by
  rcases CaptureSupervisor.recordOwnerCompletion_owned h (.error error) with
    ⟨kept, hkept, hrecord⟩ | ⟨recorded, a', hrecorded, -⟩
  · cases hkept
    refine ⟨hrecord, ?_⟩
    unfold State.answered
    rw [hrecord]
    rfl
  · cases hrecorded

/-- A wait of a supervisor whose outcome is kept returns it. -/
theorem wait_over (hover : s.supervisor.Over) (hcall : s.call = .idle) (timeout : Duration) :
    ∃ completion, s.supervisor.completion = some completion ∧
      s.waitForCompletion timeout = (.waited (.ok completion), s) := by
  obtain ⟨completion, hrecord⟩ :=
    CaptureSupervisor.recordOwnerCompletion_over hover (.error ⟨timeout⟩)
  refine ⟨completion, completion_of_record hrecord, ?_⟩
  obtain ⟨supervisor, owner, call⟩ := s
  cases hcall
  unfold State.waitForCompletion State.record State.answered
  have hstarted : supervisor.state ≠ .idle := by
    simp [show supervisor.state = .completed from hover.state]
  rw [if_neg hstarted, if_pos hover.completion]
  dsimp only
  rw [hrecord]
  rfl

/-- A wait keeps the simulation. -/
theorem Simulates.waitForCompletion (h : Simulates a s) (hcall : s.call = .idle)
    (timeout : Duration) :
    Moves a s (.waitForCompletion timeout, (s.waitForCompletion timeout).1)
      (s.waitForCompletion timeout).2 := by
  have hanswered (hover : s.supervisor.Over) :
      Moves a s (.waitForCompletion timeout, (s.waitForCompletion timeout).1)
        (s.waitForCompletion timeout).2 := by
    obtain ⟨completion, hcompletion, hwait⟩ := wait_over hover hcall timeout
    rw [hwait]
    refine ⟨⟨[], a, by rintro _ ⟨⟩, rfl, h⟩, by rintro ⟨⟩, ?_, ?_⟩
    · rintro returned (hreturned | hreturned) <;> cases hreturned
      exact hcompletion
    · rintro (hended | ⟨timeout, ⟨⟩⟩)
      exact hended
  cases h with
  | unowned hlifecycle hstate =>
    rcases hstate with hidle | hcompletion
    · have hwait : State.waitForCompletion ⟨a, none, .idle⟩ timeout
          = (.waited (.error .notStarted), ⟨a, none, .idle⟩) := by
        unfold State.waitForCompletion
        exact if_pos hidle
      rw [hwait]
      exact .of_same (.unowned hlifecycle (.inl hidle)) rfl
        ⟨by rintro ⟨⟩, fun _ => ⟨by rintro ⟨⟩, by rintro ⟨⟩⟩⟩ (by rintro _ ⟨⟩)
    · exact hanswered (over_of_completion hlifecycle (by simp [hcompletion]))
  | ready wanted stop worker channel hstate howned hreached hstop =>
    have hwait : State.waitForCompletion ⟨a, some (unjoined stop worker channel), .idle⟩ timeout
        = (.silent, ⟨a, some { unjoined stop worker channel with call := .receiving timeout },
          .waiting⟩) := by
      unfold State.waitForCompletion State.record
      rw [if_neg (by rcases hstate with h | h <;> simp [h]), if_neg (by simp [howned.completion])]
      rfl
    rw [hwait]
    exact .silent (.waiting wanted _ hstate howned
      (hreached.step (.waitForCompletion timeout) rfl) (.inl ⟨rfl, timeout, rfl⟩) hstop)
      rfl (by rintro _ ⟨⟩)
  | joined hlifecycle owner completion hreached hjoined hcompletion =>
    exact hanswered (over_of_completion hlifecycle (by simp [hcompletion]))
  | _ => cases hcall

/-- Without a running owner, a stop is the supervisor's alone. -/
theorem stop_alone (h : s.supervisor.Lifecycle)
    (hstate : s.supervisor.state = .idle ∨ s.supervisor.state = .completed) (timeout : Duration) :
    ∃ completion a', s.stop timeout = (.stopped (.ok completion), { s with supervisor := a' }) ∧
      s.supervisor.call (.stop (.error ⟨timeout⟩)) = some a' ∧ a'.Lifecycle ∧
      CaptureSupervisor.Follows s.supervisor (.stop (.error ⟨timeout⟩)) a' ∧
      a'.completion = some completion ∧
      (s.supervisor.state = .idle → completion = .stoppedBeforeStart) ∧
      a'.observation = s.supervisor.observation := by
  obtain ⟨a', hcall, hlast, hfollows⟩ := CaptureSupervisor.stop_spec h (.error ⟨timeout⟩)
  obtain ⟨⟨requested, outcome, last⟩, hstop, heq⟩ := Option.map_eq_some_iff.mp hcall
  cases heq
  have hresult : s.stop timeout = (.stopped outcome, { s with supervisor := last }) := by
    unfold State.stop
    rw [if_neg (by rcases hstate with h | h <;> simp [h]), hstop]
  -- What the stop returns is what it keeps, on either of its branches.
  obtain ⟨disabled, hdisabled, hbranch⟩ := Option.bind_eq_some_iff.mp hstop
  obtain ⟨retryState, rfl⟩ := disableRecoveryIntent_eq hdisabled
  rcases hstate with hstate | hstate
  · rw [hstate] at hbranch
    cases hbranch
    exact ⟨_, _, hresult, hcall, hlast, hfollows, rfl, fun _ => rfl, rfl⟩
  · rw [hstate] at hbranch
    obtain ⟨evaluated, hevaluated, hbranch⟩ := Option.bind_eq_some_iff.mp hbranch
    obtain ⟨evaluation, rfl⟩ := recordRecoveryEvaluation_eq hevaluated
    obtain ⟨completion, hcompletion, hbranch⟩ := Option.bind_eq_some_iff.mp hbranch
    cases hbranch
    refine ⟨completion, _, hresult, hcall, hlast, hfollows, hcompletion, ?_, rfl⟩
    rw [hstate]
    rintro ⟨⟩

/-- A stop keeps the simulation. -/
theorem Simulates.stop (h : Simulates a s) (hcall : s.call = .idle) (timeout : Duration) :
    Moves a s (.stop timeout, (s.stop timeout).1) (s.stop timeout).2 := by
  -- A stop without a running owner is a call of the supervisor.
  have halone (hs : s.supervisor = a) (hlifecycle : a.Lifecycle)
      (hstate : a.state = .idle ∨ a.state = .completed)
      (hnext : ∀ a', a'.Lifecycle → (a.state = .idle → a'.completion = some .stoppedBeforeStart) →
        CaptureSupervisor.Follows a (.stop (.error ⟨timeout⟩)) a' →
        Simulates a' { s with supervisor := a' }) :
      Moves a s (.stop timeout, (s.stop timeout).1) (s.stop timeout).2 := by
    subst hs
    obtain ⟨completion, a', hresult, hstop, hlast, hfollows, hcompletion, hidle, -⟩ :=
      stop_alone hlifecycle hstate timeout
    rw [hresult]
    refine .of_call (c := .stop (.error ⟨timeout⟩)) trivial hstop
      (hnext a' hlast (fun h => hidle h ▸ hcompletion) hfollows) (by rintro ⟨⟩) ?_
      fun _ => hfollows.stop ⟨_, rfl⟩
    rintro returned (hreturned | hreturned) <;> cases hreturned
    exact hcompletion
  cases h with
  | unowned hlifecycle hstate =>
    have hended : a.state = .idle ∨ a.state = .completed := hstate.imp id fun hcompletion =>
      (over_of_completion hlifecycle (by simp [hcompletion])).state
    refine halone rfl hlifecycle hended fun a' hlast hidle hfollows => .unowned hlast (.inr ?_)
    exact hstate.elim hidle (hfollows.completion _)
  | ready wanted stop worker channel hstate howned hreached hstop =>
    -- The intent ends first, and then the owner is asked to stop.
    have hdisabled := CaptureSupervisor.disableRecoveryIntent_owned howned
    set stopped : CaptureSupervisor := { a with
      retryState := CaptureSupervisor.ownedRetryState a.recoveryConfiguration.identity false
      state := .stopping } with hstopped
    have hresult : State.stop ⟨a, some (unjoined stop worker channel), .idle⟩ timeout
        = (.silent, ⟨stopped, some { unjoined true worker channel with call := .receiving timeout },
          .stopping⟩) := by
      unfold State.stop State.record
      rw [if_pos hstate, hdisabled]
      dsimp only
      rw [if_neg (by simp [howned.completion])]
      rfl
    rw [hresult]
    have hsimulates : Simulates a ⟨stopped,
        some { unjoined true worker channel with call := .receiving timeout }, .stopping⟩ := by
      refine .stopping stopped wanted _ hstate howned
        ⟨howned.owner, howned.completion, howned.released, howned.evaluation, rfl⟩ ?_ ?_
        (.inl ⟨rfl, timeout, rfl⟩) rfl
      · rw [hdisabled]
        rfl
      · have hrequested := hreached.step .requestStop rfl
        exact hrequested.step (.waitForCompletion timeout) rfl
    exact ⟨⟨[], a, by rintro _ ⟨⟩, rfl, hsimulates⟩, by rintro ⟨⟩,
      (by rintro completion (h | h) <;> cases h), fun _ => ⟨by rintro ⟨⟩, rfl⟩⟩
  | joined hlifecycle owner completion hreached hjoined hcompletion =>
    have hover := over_of_completion hlifecycle (by simp [hcompletion])
    exact halone rfl hlifecycle (.inr hover.state) fun a' hlast _ hfollows =>
      .joined hlast owner completion hreached hjoined (hfollows.completion _ hcompletion)
  | _ => cases hcall

/-- A drop keeps the simulation. -/
theorem Simulates.drop (h : Simulates a s) (hcall : s.call = .idle) :
    Moves a s (.drop, s.drop.1) s.drop.2 := by
  have hplain : Output.dropped.Plain := ⟨by rintro ⟨⟩, fun _ => ⟨by rintro ⟨⟩, by rintro ⟨⟩⟩⟩
  cases h with
  | unowned hlifecycle =>
    exact .of_same (.dropped hlifecycle none (by rintro _ ⟨⟩)) rfl hplain (by rintro _ ⟨⟩)
  | ready wanted stop worker channel hstate howned hreached hstop =>
    exact .silent (.dropping wanted worker channel hstate howned
      (hreached.step .requestStop rfl)) rfl (by rintro _ ⟨⟩)
  | joined hlifecycle owner completion hreached hjoined hcompletion =>
    have hdrop : State.drop ⟨a, some owner, .idle⟩
        = State.dropped ⟨a, some owner.requestStop, .idle⟩ := by
      unfold State.drop
      dsimp only
      rw [hjoined.owner]
      rfl
    rw [hdrop]
    refine .of_same (.dropped hlifecycle _ ?_) rfl hplain (by rintro _ ⟨⟩)
    rintro _ ⟨⟩
    exact ⟨hjoined.call, hjoined.exited⟩
  | _ => cases hcall

/-- A wait in progress goes on to join the worker, or expires and leaves the owner ready. -/
theorem Reached.receive (h : Reached owner) {expired : Bool} {output : CaptureOwner.Output}
    (hstep : owner.receive expired = some (output, owner')) :
    Reached owner' ∧ owner'.stopRequested = owner.stopRequested ∧
      (output = .silent ∧ CaptureOwner.Blocked owner' ∨
      ∃ timeout worker channel, output = .waited (.error ⟨timeout⟩) ∧
        owner' = unjoined owner.stopRequested worker channel) := by
  refine ⟨h.step (.receive expired) hstep, ?_⟩
  have heffect := CaptureOwner.Effect.of_receive h.lifecycle hstep
  cases heffect with
  | expired stop worker channel timeout => exact ⟨rfl, .inr ⟨timeout, worker, channel, rfl, rfl⟩⟩
  | received => exact ⟨rfl, .inl ⟨rfl, .inr rfl⟩⟩
  | waitBlocks _ _ _ _ _ _ haction => rcases haction with ⟨h, -⟩ | ⟨h, -⟩ <;> cases h
  | waitAnswered _ _ _ _ _ _ _ haction => rcases haction with ⟨h, -⟩ | ⟨h, -⟩ <;> cases h

/-- A join in progress ends with the completion, and the worker is gone. -/
theorem Reached.join (h : Reached owner) {output : CaptureOwner.Output}
    (hstep : owner.join = some (output, owner')) :
    Reached owner' ∧
      ∃ completion, output = .waited (.ok completion) ∧ CaptureOwner.Joined completion owner' := by
  refine ⟨h.step .join hstep, ?_⟩
  have heffect := CaptureOwner.Effect.of_join h.lifecycle hstep
  obtain ⟨completion, rfl⟩ : ∃ completion, output = .waited (.ok completion) := by
    cases heffect with
    | joined stop panicked channel completion completion' => exact ⟨completion', rfl⟩
    | waitBlocks _ _ _ _ _ _ haction => rcases haction with ⟨h, -⟩ | ⟨h, -⟩ <;> cases h
    | waitAnswered _ _ _ _ _ _ _ haction => rcases haction with ⟨h, -⟩ | ⟨h, -⟩ <;> cases h
  exact ⟨completion, rfl, heffect.joined_of_answer h.lifecycle rfl⟩

/-- A step of the worker changes neither the owner's fields nor the call it is in. -/
theorem Reached.worker (h : Reached owner) {action : CaptureOwner.WorkerAction}
    {output : CaptureOwner.Output} (hstep : owner.workerStep action = some (output, owner')) :
    Reached owner' ∧ ∃ worker channel, owner' = { owner with thread := some worker, channel } := by
  refine ⟨h.step (.worker action) hstep, ?_⟩
  have heffect := CaptureOwner.Effect.of_workerStep hstep
  cases heffect with
  | worked s worker worker' channel => exact ⟨worker', channel, rfl⟩
  | waitBlocks _ _ _ _ _ _ haction => rcases haction with ⟨h, -⟩ | ⟨h, -⟩ <;> cases h
  | waitAnswered _ _ _ _ _ _ _ haction => rcases haction with ⟨h, -⟩ | ⟨h, -⟩ <;> cases h

/-- An owner that has joined its worker is left without it. -/
theorem gone_of_joined {completion : CaptureOwnerCompletion}
    (h : CaptureOwner.Joined completion owner) : Gone owner :=
  ⟨h.call, h.exited⟩

/-- A stop of a supervisor with a running owner records the owner's answer. -/
theorem stop_records {stopped : CaptureSupervisor} {wanted : Bool}
    {answer : Except CaptureOwnerShutdownTimeout CaptureOwnerCompletion}
    {outcome : Except CaptureOwnerShutdownTimeout CaptureSupervisorCompletion}
    (hstate : a.state = .running ∨ a.state = .stopping) (howned : a.Owned wanted)
    (hdisabled : a.disableRecoveryIntent.map ({ · with state := .stopping }) = some stopped)
    (hrecord : stopped.recordOwnerCompletion answer = some (outcome, a')) :
    a.call (.stop answer) = some a' := by
  rw [CaptureSupervisor.disableRecoveryIntent_owned howned] at hdisabled
  obtain rfl := Option.some.inj hdisabled
  have howner : (guard (a.hasOwner = true) : Option Unit) = some () := if_pos howned.owner
  show (a.stop answer).map _ = _
  unfold CaptureSupervisor.stop
  simp only [bind, Option.bind, CaptureSupervisor.disableRecoveryIntent_owned howned]
  rcases hstate with hstate | hstate <;> simp only [hstate, howner, hrecord] <;> rfl

/-- A supervisor whose stop waits for its owner is stopping, and its intent has ended. -/
theorem stopped_ended {stopped : CaptureSupervisor} (howned : stopped.Owned false)
    (h : a.disableRecoveryIntent.map ({ · with state := .stopping }) = some stopped) :
    stopped.state = .stopping ∧ Ended stopped := by
  obtain ⟨disabled, -, rfl⟩ := Option.map_eq_some_iff.mp h
  exact ⟨rfl, by rintro ⟨⟩, owned_desiredRunning howned⟩

/-- The end of a `recv_timeout` keeps the simulation. -/
theorem Simulates.receive (h : Simulates a s) {expired : Bool} {output : Output}
    (hstep : s.receive expired = some (output, s')) : Moves a s (.receive expired, output) s' := by
  unfold State.receive at hstep
  cases h with
  | unowned => cases hstep
  | ready => cases hstep
  | dropping => cases hstep
  | dropped hlifecycle owner hgone =>
    cases owner with
    | none => cases hstep
    | some left =>
      rw [Option.bind_some, (hgone left rfl).stays.1] at hstep
      cases hstep
  | joined hlifecycle owner completion hreached hjoined hcompletion =>
    rw [Option.bind_some, (gone_of_joined hjoined).stays.1] at hstep
    cases hstep
  | waiting wanted owner hstate howned hreached hblocked hstop =>
    rw [Option.bind_some] at hstep
    cases hreceive : owner.receive expired with
    | none =>
      rw [hreceive] at hstep
      cases hstep
    | some result =>
      obtain ⟨answer, owner'⟩ := result
      rw [hreceive] at hstep
      obtain ⟨hreached', hrequested, hresult⟩ := hreached.receive hreceive
      rcases hresult with ⟨rfl, hblocked'⟩ | ⟨timeout, worker, channel, rfl, rfl⟩
      · cases hstep
        exact .silent (.waiting wanted owner' hstate howned hreached' hblocked'
          (hrequested ▸ hstop)) rfl (by rintro _ ⟨⟩)
      · -- The wait expired: the supervisor keeps its owner, and nothing was recorded.
        obtain ⟨-, hanswered⟩ := answered_error howned
          (unjoined owner.stopRequested worker channel) .waiting ⟨timeout⟩
        cases (congrArg some hanswered).symm.trans hstep
        exact .of_same (.ready wanted _ worker channel hstate howned hreached' hstop) rfl
          ⟨by rintro ⟨⟩, fun _ => ⟨by rintro ⟨⟩, by rintro ⟨⟩⟩⟩ (by rintro _ ⟨⟩)
  | stopping stopped wanted owner hstate howned hstopped hdisabled hreached hblocked hstop =>
    rw [Option.bind_some] at hstep
    cases hreceive : owner.receive expired with
    | none =>
      rw [hreceive] at hstep
      cases hstep
    | some result =>
      obtain ⟨answer, owner'⟩ := result
      rw [hreceive] at hstep
      obtain ⟨hreached', hrequested, hresult⟩ := hreached.receive hreceive
      rcases hresult with ⟨rfl, hblocked'⟩ | ⟨timeout, worker, channel, rfl, rfl⟩
      · cases hstep
        exact .silent (.stopping stopped wanted owner' hstate howned hstopped hdisabled hreached'
          hblocked' (hrequested.trans hstop)) rfl (by rintro _ ⟨⟩)
      · obtain ⟨hrecord, hanswered⟩ := answered_error hstopped
          (unjoined owner.stopRequested worker channel) .stopping ⟨timeout⟩
        obtain ⟨hstopping, hended⟩ := stopped_ended hstopped hdisabled
        cases (congrArg some hanswered).symm.trans hstep
        exact .of_call (c := .stop (.error ⟨timeout⟩)) trivial
          (stop_records hstate howned hdisabled hrecord)
          (.ready false _ worker channel (.inr hstopping) hstopped hreached' fun _ => hstop)
          (by rintro ⟨⟩) (by rintro completion (h | h) <;> cases h) fun _ => hended

/-- The end of a `join` keeps the simulation. -/
theorem Simulates.join (h : Simulates a s) {output : Output}
    (hstep : s.join = some (output, s')) : Moves a s (.join, output) s' := by
  unfold State.join at hstep
  cases h with
  | unowned => cases hstep
  | dropped hlifecycle owner hgone =>
    cases owner with
    | none => cases hstep
    | some left =>
      dsimp only at hstep
      rw [(hgone left rfl).stays.2.1] at hstep
      cases hstep
  | ready wanted stop worker channel => cases worker <;> cases hstep
  | joined hlifecycle owner completion hreached hjoined hcompletion =>
    dsimp only at hstep
    rw [(gone_of_joined hjoined).stays.2.1] at hstep
    cases hstep
  | dropping wanted worker channel hstate howned hreached =>
    cases worker with
    | exited panicked =>
      cases hstep
      refine .of_same (.dropped (.owned wanted hstate howned) _ ?_) rfl
        ⟨by rintro ⟨⟩, fun _ => ⟨by rintro ⟨⟩, by rintro ⟨⟩⟩⟩ (by rintro _ ⟨⟩)
      rintro _ ⟨⟩
      exact ⟨rfl, by rintro _ ⟨⟩; exact ⟨panicked, rfl⟩⟩
    | _ => cases hstep
  | waiting wanted owner hstate howned hreached hblocked hstop =>
    dsimp only at hstep
    cases hjoin : owner.join with
    | none =>
      rw [hjoin] at hstep
      cases hstep
    | some result =>
      obtain ⟨answer, owner'⟩ := result
      rw [hjoin] at hstep
      obtain ⟨hreached', completion, rfl, hjoined⟩ := hreached.join hjoin
      obtain ⟨a', hrecord, hlast, hcompletion, hended, hanswered⟩ :=
        answered_ok howned owner' .waiting completion
      cases (congrArg some hanswered).symm.trans hstep
      refine .of_call (c := .waitForCompletion (.ok completion)) trivial ?_
        (.joined hlast owner' completion hreached' hjoined hcompletion) (by rintro ⟨⟩) ?_ ?_
      · rw [CaptureSupervisor.call_waitForCompletion
          (by rcases hstate with h | h <;> simp [h]), hrecord]
        rfl
      · rintro returned (hreturned | hreturned) <;> cases hreturned
        exact hcompletion
      · rintro (⟨-, hdesired⟩ | ⟨timeout, ⟨⟩⟩)
        exact hended hdesired
  | stopping stopped wanted owner hstate howned hstopped hdisabled hreached hblocked hstop =>
    dsimp only at hstep
    cases hjoin : owner.join with
    | none =>
      rw [hjoin] at hstep
      cases hstep
    | some result =>
      obtain ⟨answer, owner'⟩ := result
      rw [hjoin] at hstep
      obtain ⟨hreached', completion, rfl, hjoined⟩ := hreached.join hjoin
      obtain ⟨a', hrecord, hlast, hcompletion, hended, hanswered⟩ :=
        answered_ok hstopped owner' .stopping completion
      cases (congrArg some hanswered).symm.trans hstep
      refine .of_call (c := .stop (.ok completion)) trivial
        (stop_records hstate howned hdisabled hrecord)
        (.joined hlast owner' completion hreached' hjoined hcompletion) (by rintro ⟨⟩) ?_
        fun _ => hended (owned_desiredRunning hstopped)
      rintro returned (hreturned | hreturned) <;> cases hreturned
      exact hcompletion

/-- A step of the worker keeps the simulation. -/
theorem Simulates.workerStep (h : Simulates a s) {action : CaptureOwner.WorkerAction}
    {output : Output} (hstep : s.workerStep action = some (output, s')) :
    Moves a s (.worker action, output) s' := by
  obtain ⟨⟨out, owner'⟩, howner, heq⟩ := Option.map_eq_some_iff.mp hstep
  obtain ⟨owner, hsome, hworker⟩ := Option.bind_eq_some_iff.mp howner
  cases heq
  -- The supervisor stays as it is, and the owner stays in its call.
  have hsilent {s' : State} (hsimulates : Simulates a s')
      (hsame : s'.supervisor = s.supervisor) : Moves a s (.worker action, .silent) s' :=
    .silent hsimulates hsame (by rintro _ ⟨⟩)
  cases h with
  | unowned => cases hsome
  | dropped hlifecycle left hgone =>
    rw [(hgone owner hsome).stays.2.2.1] at hworker
    cases hworker
  | ready wanted stop worker channel hstate howned hreached hstop =>
    cases hsome
    obtain ⟨hreached', worker', channel', rfl⟩ := hreached.worker hworker
    exact hsilent (.ready wanted stop worker' channel' hstate howned hreached' hstop) rfl
  | waiting wanted owner hstate howned hreached hblocked hstop =>
    cases hsome
    obtain ⟨hreached', worker', channel', rfl⟩ := hreached.worker hworker
    exact hsilent (.waiting wanted _ hstate howned hreached' hblocked hstop) rfl
  | stopping stopped wanted owner hstate howned hstopped hdisabled hreached hblocked hstop =>
    cases hsome
    obtain ⟨hreached', worker', channel', rfl⟩ := hreached.worker hworker
    exact hsilent (.stopping stopped wanted _ hstate howned hstopped hdisabled hreached' hblocked
      hstop) rfl
  | joined hlifecycle owner completion hreached hjoined hcompletion =>
    cases hsome
    rw [(gone_of_joined hjoined).stays.2.2.1] at hworker
    cases hworker
  | dropping wanted worker channel hstate howned hreached =>
    cases hsome
    obtain ⟨hreached', worker', channel', rfl⟩ := hreached.worker hworker
    exact hsilent (.dropping wanted worker' channel' hstate howned hreached') rfl

/-- An event leaves everything but what the callback saw. -/
theorem owned_observe {wanted : Bool} (h : a.Owned wanted) (event : StreamEvent) :
    (a.observe event).Owned wanted :=
  ⟨h.owner, h.completion, h.released, h.evaluation, h.retryState⟩

/-- A stop and an event commute. -/
theorem disableRecoveryIntent_observe {wanted : Bool} {stopped : CaptureSupervisor}
    (howned : a.Owned wanted) (event : StreamEvent)
    (h : a.disableRecoveryIntent.map ({ · with state := .stopping }) = some stopped) :
    (a.observe event).disableRecoveryIntent.map ({ · with state := .stopping })
      = some (stopped.observe event) := by
  rw [CaptureSupervisor.disableRecoveryIntent_owned howned] at h
  rw [CaptureSupervisor.disableRecoveryIntent_owned (owned_observe howned event)]
  obtain rfl := Option.some.inj h
  rfl

/-- An event keeps the simulation. -/
theorem Simulates.emit (h : Simulates a s) {event : StreamEvent} {output : Output}
    (hstep : s.emit event = some (output, s')) : Moves a s (.emit event, output) s' := by
  have hobserve {s' : State} (hsimulates : Simulates (a.observe event) s')
      (hsame : s'.supervisor = s.supervisor.observe event) :
      Moves a s (.emit event, .silent) s' := by
    refine .of_call (c := .observe event) trivial rfl hsimulates (by rintro ⟨⟩)
      (by rintro completion (h | h) <;> cases h) ?_
    rintro (hended | ⟨timeout, ⟨⟩⟩)
    rw [hsame]
    exact hended
  unfold State.emit at hstep
  split at hstep
  next hrunning =>
    cases hstep
    cases h with
    | unowned => cases hrunning
    | dropped hlifecycle left hgone =>
      obtain ⟨owner, rfl, hthread⟩ := Option.bind_eq_some_iff.mp hrunning
      exact absurd hthread (hgone owner rfl).stays.2.2.2
    | ready wanted stop worker channel hstate howned hreached hstop =>
      exact hobserve (.ready wanted stop worker channel hstate (owned_observe howned event)
        hreached hstop) rfl
    | waiting wanted owner hstate howned hreached hblocked hstop =>
      exact hobserve (.waiting wanted owner hstate (owned_observe howned event) hreached hblocked
        hstop) rfl
    | stopping stopped wanted owner hstate howned hstopped hdisabled hreached hblocked hstop =>
      exact hobserve (.stopping (stopped.observe event) wanted owner hstate
        (owned_observe howned event) (owned_observe hstopped event)
        (disableRecoveryIntent_observe howned event hdisabled) hreached hblocked hstop) rfl
    | joined hlifecycle owner completion hreached hjoined hcompletion =>
      exact absurd hrunning (gone_of_joined hjoined).stays.2.2.2
    | dropping wanted worker channel hstate howned hreached =>
      exact hobserve (.dropping wanted worker channel hstate (owned_observe howned event) hreached)
        rfl
  next => cases hstep

/-- Every step keeps the simulation. -/
theorem Simulates.step (h : Simulates a s) (hstep : system.step s l s') : Moves a s l s' := by
  obtain ⟨action, output⟩ := l
  have hstep : s.step action = some (output, s') := hstep
  cases action with
  | start spawnError =>
    obtain ⟨hcall, heq⟩ := Option.ite_none_right_eq_some.mp hstep
    have hmoves := h.start hcall spawnError
    rwa [Option.some.inj heq] at hmoves
  | waitForCompletion timeout =>
    obtain ⟨hcall, heq⟩ := Option.ite_none_right_eq_some.mp hstep
    have hmoves := h.waitForCompletion hcall timeout
    rwa [Option.some.inj heq] at hmoves
  | stop timeout =>
    obtain ⟨hcall, heq⟩ := Option.ite_none_right_eq_some.mp hstep
    have hmoves := h.stop hcall timeout
    rwa [Option.some.inj heq] at hmoves
  | drop =>
    obtain ⟨hcall, heq⟩ := Option.ite_none_right_eq_some.mp hstep
    have hmoves := h.drop hcall
    rwa [Option.some.inj heq] at hmoves
  | receive expired => exact h.receive hstep
  | join => exact h.join hstep
  | worker action => exact h.workerStep hstep
  | emit event => exact h.emit hstep

/-! ## Runs -/

/-- Lists of calls compose. -/
theorem calls_append {cs cs' : List CaptureSupervisor.Call} {a'' : CaptureSupervisor}
    (h : a.calls cs = some a') (h' : a'.calls cs' = some a'') : a.calls (cs ++ cs') = some a'' := by
  calc a.calls (cs ++ cs')
      = (a.calls cs).bind (·.calls cs') := List.foldlM_append
    _ = some a'' := by rw [h]; exact h'

variable {ls : List (Action × Output)} {s₀ : State}

/-- Every run keeps the simulation, and no `expect` fails along it. -/
theorem Simulates.run (h : Simulates a s₀) (hrun : system.Run s₀ ls s) :
    (∃ cs a', (∀ c ∈ cs, CaptureSupervisor.Call.Obeys c) ∧ a.calls cs = some a' ∧
      Simulates a' s) ∧ ∀ l ∈ ls, l.2 ≠ .expectFailed := by
  apply TransitionSystem.Run.history (S := system)
    (I := fun ls s => (∃ cs a', (∀ c ∈ cs, CaptureSupervisor.Call.Obeys c) ∧
      a.calls cs = some a' ∧ Simulates a' s) ∧ ∀ l ∈ ls, l.2 ≠ .expectFailed) _ _ hrun
  · exact ⟨⟨[], a, by rintro _ ⟨⟩, rfl, h⟩, by rintro _ ⟨⟩⟩
  · intro ls s l s' hbefore hi hstep
    obtain ⟨⟨cs, a', hobeys, hcalls, hsimulates⟩, hpanic⟩ := hi
    have hmoves := hsimulates.step hstep
    obtain ⟨cs', a'', hobeys', hcalls', hsimulates'⟩ := hmoves.simulates
    refine ⟨⟨cs ++ cs', a'', ?_, calls_append hcalls hcalls', hsimulates'⟩, ?_⟩
    · intro c hc
      rcases List.mem_append.mp hc with hc | hc
      · exact hobeys c hc
      · exact hobeys' c hc
    · intro e he
      rcases List.mem_append.mp he with he | he
      · exact hpanic e he
      · rw [List.mem_singleton] at he
        exact he ▸ hmoves.no_panic

/-- A new supervisor simulates itself. -/
theorem simulates_forSource (h : State.forSource = some s₀) :
    CaptureSupervisor.withFactory = some s₀.supervisor ∧ Simulates s₀.supervisor s₀ := by
  obtain ⟨supervisor, hfactory, rfl⟩ := Option.map_eq_some_iff.mp h
  obtain ⟨a, hnew, hidle, hlifecycle⟩ := CaptureSupervisor.withFactory_lifecycle
  cases hnew.symm.trans hfactory
  exact ⟨hfactory, .unowned hlifecycle (.inl hidle)⟩

/-- Where the supervisor has an outcome, no call blocks and no worker is left. The outcome is what
its owner completed with, or the supervisor was stopped before there was one. -/
theorem Simulates.outcome (h : Simulates a s) {completion : CaptureSupervisorCompletion}
    (hcompletion : s.supervisor.completion = some completion) :
    s.supervisor = a ∧ a.Lifecycle ∧ (∀ owner, s.owner = some owner → Gone owner) ∧
      (s.call = .dropped ∨ s.call = .idle ∧
        (s.owner = none ∧ completion = .stoppedBeforeStart ∨
          ∃ owner full, s.owner = some owner ∧ CaptureOwner.Joined full owner ∧
            completion = full.summary)) := by
  cases h with
  | unowned hlifecycle hstate =>
    refine ⟨rfl, hlifecycle, by rintro _ ⟨⟩, .inr ⟨rfl, .inl ⟨rfl, ?_⟩⟩⟩
    rcases hstate with hidle | hstopped
    · have hover := over_of_completion hlifecycle (by simp [show a.completion = _ from hcompletion])
      cases hidle.symm.trans hover.state
    · cases hstopped.symm.trans hcompletion
      rfl
  | ready wanted stop worker channel hstate howned =>
    cases howned.completion.symm.trans hcompletion
  | waiting wanted owner hstate howned => cases howned.completion.symm.trans hcompletion
  | stopping stopped wanted owner hstate howned hstopped =>
    cases hstopped.completion.symm.trans hcompletion
  | joined hlifecycle owner full hreached hjoined hfull =>
    refine ⟨rfl, hlifecycle, by rintro _ ⟨⟩; exact gone_of_joined hjoined, .inr ⟨rfl, .inr ?_⟩⟩
    exact ⟨owner, full, rfl, hjoined, Option.some.inj (hcompletion.symm.trans hfull)⟩
  | dropping wanted worker channel hstate howned =>
    cases howned.completion.symm.trans hcompletion
  | dropped hlifecycle owner hgone => exact ⟨rfl, hlifecycle, hgone, .inl rfl⟩

/-- A capture whose owner does not stop in time: its runner panics after the end of its stream, and
another wait returns the outcome. -/
def stoppedRun (streamId : StreamId) (timeout : Duration) : List (Action × Output) :=
  [(.start none, .started (.ok .started)), (.worker .invoke, .silent),
    (.emit (.ended streamId .consumerCancelled), .silent), (.stop timeout, .silent),
    (.receive true, .stopped (.error ⟨timeout⟩)), (.worker (.finish .panicked), .silent),
    (.worker .send, .silent), (.worker .exit, .silent), (.waitForCompletion timeout, .silent),
    (.receive false, .silent), (.join, .waited (.ok .panicked)),
    (.start none, .started (.error (.notIdle .completed))), (.drop, .dropped)]

/-- It is a run. -/
theorem exists_stoppedRun (streamId : StreamId) (timeout : Duration) :
    ∃ s₀ s, State.forSource = some s₀ ∧ system.Run s₀ (stoppedRun streamId timeout) s := by
  obtain ⟨configuration, retryState, hnew, hfactory⟩ := CaptureSupervisor.withFactory_eq
  have hrun : ∃ s, system.Run ⟨.inert configuration retryState, none, .idle⟩
      (stoppedRun streamId timeout) s := by
    cases hnew
    exact ⟨_, _, rfl, _, rfl, _, rfl, _, rfl, _, rfl, _, rfl, _, rfl, _, rfl, _, rfl, _, rfl, _,
      rfl, _, rfl, _, rfl, rfl⟩
  obtain ⟨s, hrun⟩ := hrun
  refine ⟨_, s, ?_, hrun⟩
  unfold State.forSource
  rw [hfactory]
  rfl

/-- Every interleaving of a supervisor's calls with the steps and events of its owner's worker: no
`expect` fails; between two calls the supervisor is what a list of calls makes of it whose answers
obey the trait of the owner; the owner is one that its own steps lead to; and the outcome of the
supervisor is what the owner completed with, its worker having been joined. -/
theorem supervised_capture (hnew : State.forSource = some s₀) (h : system.Run s₀ ls s) :
    (∀ l ∈ ls, l.2 ≠ .expectFailed) ∧
    (s.call = .idle → ∃ cs, (∀ c ∈ cs, CaptureSupervisor.Call.Obeys c) ∧
      s₀.supervisor.calls cs = some s.supervisor) ∧
    (s.call ≠ .dropped → ∀ owner, s.owner = some owner → Reached owner) ∧
    ∀ completion, s.supervisor.completion = some completion → s.call = .idle →
      s.owner = none ∧ completion = .stoppedBeforeStart ∨
      ∃ owner full, s.owner = some owner ∧ CaptureOwner.Joined full owner ∧
        completion = full.summary := by
  obtain ⟨⟨cs, a, hobeys, hcalls, hsimulates⟩, hpanic⟩ := (simulates_forSource hnew).2.run h
  refine ⟨hpanic, ?_, ?_, ?_⟩
  · intro hidle
    refine ⟨cs, hobeys, hcalls.trans (congrArg some ?_)⟩
    cases hsimulates with
    | stopping => cases hidle
    | _ => rfl
  · intro hdropped owner howner
    cases hsimulates with
    | unowned => cases howner
    | ready wanted stop worker channel hstate howned hreached => cases howner; exact hreached
    | waiting wanted owner hstate howned hreached => cases howner; exact hreached
    | stopping stopped wanted owner hstate howned hstopped hdisabled hreached =>
      cases howner
      exact hreached
    | joined hlifecycle owner completion hreached => cases howner; exact hreached
    | dropping wanted worker channel hstate howned hreached => cases howner; exact hreached
    | dropped => exact absurd rfl hdropped
  · intro completion hcompletion hidle
    obtain ⟨-, -, -, hdropped | ⟨-, houtcome⟩⟩ := hsimulates.outcome hcompletion
    · cases hdropped.symm.trans hidle
    · exact houtcome

/-- A late panic is one of these interleavings. -/
theorem supervised_capture_stopped : ∃ s₀ s, State.forSource = some s₀ ∧
    system.Run s₀ (stoppedRun (streamIdOf 1 1) (.fromSecs 1)) s ∧
    ∀ l ∈ stoppedRun (streamIdOf 1 1) (.fromSecs 1), l.2 ≠ .expectFailed := by
  obtain ⟨s₀, s, hnew, hrun⟩ := exists_stoppedRun (streamIdOf 1 1) (.fromSecs 1)
  exact ⟨s₀, s, hnew, hrun, (supervised_capture hnew hrun).1⟩

end SupervisedCapture

end ResonanceSignal
