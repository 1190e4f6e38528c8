import ResonanceSignal.Agent.SupervisedCapture

/-!
# The end of a supervised capture

What a consumer may rely on when a call of the supervisor has returned, in every interleaving with
the owner's worker. Once an outcome was returned the worker is gone, so no step of it and no event
follows (`no_callback_after_outcome`). A stop is final before its owner has answered
(`stop_is_final`), and a call that timed out leaves a state from which another one can succeed
(`wait_can_succeed`).

Each of the three is a step lemma from a state that the simulation relates to a supervisor, and its
induction along the run.
-/

namespace ResonanceSignal

namespace SupervisedCapture

variable {a a' : CaptureSupervisor} {s s' s₀ : State} {l : Action × Output}
  {ls : List (Action × Output)}

/-! ## After the outcome -/

/-- A call that returns the outcome. -/
def Returns (l : Action × Output) (completion : CaptureSupervisorCompletion) : Prop :=
  l.2 = .waited (.ok completion) ∨ l.2 = .stopped (.ok completion)

/-- A step of a supervisor that has its outcome: no event and no step of a worker, and a call that
returns the same. -/
structure Repeats (completion : CaptureSupervisorCompletion) (l : Action × Output) : Prop where
  /-- The worker makes no step. -/
  worker : ∀ action, l.1 ≠ .worker action
  /-- The callback sees no event. -/
  emit : ∀ event, l.1 ≠ .emit event
  /-- Another start is refused. -/
  started : ∀ result, l.2 = .started result → result = .error (.notIdle .completed)
  /-- Another wait returns the outcome. -/
  waited : ∀ result, l.2 = .waited result → result = .ok completion
  /-- So does another stop. -/
  stopped : ∀ result, l.2 = .stopped result → result = .ok completion

/-- Without a worker, neither it nor what waits for it makes a step. -/
theorem gone_no_step (hgone : ∀ owner, s.owner = some owner → Gone owner)
    (hcall : s.call ≠ .dropping) :
    (∀ expired, s.receive expired = none) ∧ s.join = none ∧
      (∀ action, s.workerStep action = none) ∧ ∀ event, s.emit event = none := by
  obtain ⟨supervisor, owner, call⟩ := s
  cases owner with
  | none => exact ⟨fun _ => rfl, rfl, fun _ => rfl, fun _ => rfl⟩
  | some left =>
    obtain ⟨hreceive, hjoin, hworker, hrunning⟩ := (hgone left rfl).stays
    refine ⟨fun expired => ?_, ?_, fun action => ?_, fun event => ?_⟩
    · simp only [State.receive, Option.bind_some, hreceive]
    · unfold State.join
      dsimp only
      rw [hjoin]
      split
      next => exact absurd rfl hcall
      next => rfl
      next => rfl
    · simp only [State.workerStep, Option.bind_some, hworker, Option.map_none]
    · unfold State.emit
      split
      next hthread => exact absurd hthread hrunning
      next => rfl

/-- A dropped supervisor makes no step. -/
theorem Simulates.not_step_of_dropped (h : Simulates a s) (hcall : s.call = .dropped) :
    ¬system.step s l s' := by
  intro hstep
  obtain ⟨action, output⟩ := l
  have hstep : s.step action = some (output, s') := hstep
  cases h with
  | dropped hlifecycle owner hgone =>
    obtain ⟨hreceive, hjoin, hworker, hemit⟩ := gone_no_step (s := ⟨a, owner, .dropped⟩) hgone
      (by rintro ⟨⟩)
    cases action with
    | receive expired => cases (hreceive expired).symm.trans hstep
    | join => cases hjoin.symm.trans hstep
    | worker action => cases (hworker action).symm.trans hstep
    | emit event => cases (hemit event).symm.trans hstep
    | _ => cases hstep
  | _ => cases hcall

/-- A step after the outcome repeats it, and changes nothing that the callback saw. -/
theorem Simulates.repeats (h : Simulates a s) {completion : CaptureSupervisorCompletion}
    (hcompletion : s.supervisor.completion = some completion) (hstep : system.step s l s') :
    Repeats completion l ∧ s'.supervisor.completion = some completion ∧
      s'.supervisor.observation = s.supervisor.observation := by
  obtain ⟨hsame, hlifecycle, hgone, hcall⟩ := h.outcome hcompletion
  rcases hcall with hdropped | ⟨hcall, -⟩
  · exact absurd hstep (h.not_step_of_dropped hdropped)
  subst hsame
  have hover := over_of_completion hlifecycle (by simp [hcompletion])
  obtain ⟨hreceive, hjoin, hworker, hemit⟩ := gone_no_step hgone (by simp [hcall])
  obtain ⟨action, output⟩ := l
  have hstep : s.step action = some (output, s') := hstep
  cases action with
  | start spawnError =>
    obtain ⟨-, heq⟩ := Option.ite_none_right_eq_some.mp hstep
    cases (start_refused (by simp [hover.state]) spawnError).symm.trans (Option.some.inj heq)
    refine ⟨⟨by rintro _ ⟨⟩, by rintro _ ⟨⟩, ?_, by rintro _ ⟨⟩, by rintro _ ⟨⟩⟩, hcompletion, rfl⟩
    rintro result ⟨⟩
    rw [hover.state]
  | waitForCompletion timeout =>
    obtain ⟨-, heq⟩ := Option.ite_none_right_eq_some.mp hstep
    obtain ⟨kept, hkept, hwait⟩ := wait_over hover hcall timeout
    cases hkept.symm.trans hcompletion
    cases hwait.symm.trans (Option.some.inj heq)
    exact ⟨⟨by rintro _ ⟨⟩, by rintro _ ⟨⟩, by rintro _ ⟨⟩, by rintro _ ⟨⟩; rfl, by rintro _ ⟨⟩⟩,
      hcompletion, rfl⟩
  | stop timeout =>
    obtain ⟨-, heq⟩ := Option.ite_none_right_eq_some.mp hstep
    obtain ⟨kept, a', hstop, -, -, hfollows, hkept, -, hobservation⟩ :=
      stop_alone hlifecycle (.inr hover.state) timeout
    cases (hfollows.completion completion hcompletion).symm.trans hkept
    cases hstop.symm.trans (Option.some.inj heq)
    exact ⟨⟨by rintro _ ⟨⟩, by rintro _ ⟨⟩, by rintro _ ⟨⟩, by rintro _ ⟨⟩, by rintro _ ⟨⟩; rfl⟩,
      hkept, hobservation⟩
  | drop =>
    obtain ⟨-, heq⟩ := Option.ite_none_right_eq_some.mp hstep
    obtain ⟨hsame, hplain⟩ : s'.supervisor = s.supervisor ∧
        (output = .dropped ∨ output = .silent) := by
      unfold State.drop at heq
      split at heq
      next =>
        cases heq
        exact ⟨rfl, .inl rfl⟩
      next =>
        dsimp only at heq
        split_ifs at heq
        · cases heq
          exact ⟨rfl, .inr rfl⟩
        · cases heq
          exact ⟨rfl, .inl rfl⟩
    rw [hsame]
    refine ⟨⟨by rintro _ ⟨⟩, by rintro _ ⟨⟩, ?_, ?_, ?_⟩, hcompletion, rfl⟩
    all_goals rcases hplain with rfl | rfl <;> rintro _ ⟨⟩
  | receive expired => cases (hreceive expired).symm.trans hstep
  | join => cases hjoin.symm.trans hstep
  | worker action => cases (hworker action).symm.trans hstep
  | emit event => cases (hemit event).symm.trans hstep

/-- After the outcome, every step repeats it. -/
theorem Simulates.repeats_run (h : Simulates a s₀) {completion : CaptureSupervisorCompletion}
    (hcompletion : s₀.supervisor.completion = some completion) (hrun : system.Run s₀ ls s) :
    (∀ l ∈ ls, Repeats completion l) ∧ s.supervisor.completion = some completion ∧
      s.supervisor.observation = s₀.supervisor.observation := by
  induction ls generalizing s₀ a with
  | nil =>
    cases TransitionSystem.run_nil.mp hrun
    exact ⟨by rintro _ ⟨⟩, hcompletion, rfl⟩
  | cons l ls ih =>
    obtain ⟨t, hstep, hrest⟩ := TransitionSystem.run_cons.mp hrun
    obtain ⟨hrepeats, hkept, hsame⟩ := h.repeats hcompletion hstep
    obtain ⟨cs, a', -, -, hsimulates⟩ := (h.step hstep).simulates
    obtain ⟨hall, hlast, hobservation⟩ := ih hsimulates hkept hrest
    exact ⟨List.forall_mem_cons.mpr ⟨hrepeats, hall⟩, hlast, hobservation.trans hsame⟩

/-- An output that is neither the answer to a start nor the end of a drop. -/
def Output.OfWait (output : Output) : Prop :=
  (∀ result, output ≠ .started result) ∧ output ≠ .dropped

/-- What a wait or a stop returns is neither the answer to a start nor the end of a drop. -/
theorem answered_ofWait (s : State)
    (answer : Except CaptureOwnerShutdownTimeout CaptureOwnerCompletion) :
    (s.answered answer).1.OfWait := by
  unfold State.answered
  split
  next => exact ⟨by rintro _ ⟨⟩, by rintro ⟨⟩⟩
  next =>
    dsimp only
    split_ifs <;> exact ⟨by rintro _ ⟨⟩, by rintro ⟨⟩⟩

/-- Where a wait or a stop begins, it shows neither the answer to a start nor the end of a drop. -/
theorem record_ofWait (s : State) (timeout : Duration) : (s.record timeout).1.OfWait := by
  unfold State.record
  split_ifs
  · exact answered_ofWait _ _
  · split
    next => exact ⟨by rintro _ ⟨⟩, by rintro ⟨⟩⟩
    next =>
      split
      next => exact answered_ofWait _ _
      next => exact ⟨by rintro _ ⟨⟩, by rintro ⟨⟩⟩

/-- The result of a start is a start's, and a step that drops the supervisor leaves it dropped. -/
theorem output_of_step (hstep : system.step s l s') :
    (∀ result, l.2 = .started result →
      ∃ spawnError, s.start spawnError = (.started result, s')) ∧
    (l.2 = .dropped → s'.call = .dropped) := by
  obtain ⟨action, output⟩ := l
  have hstep : s.step action = some (output, s') := hstep
  have hwait {output : Output} (h : output.OfWait) : (∀ result, output = .started result →
      ∃ spawnError, s.start spawnError = (.started result, s')) ∧
      (output = .dropped → s'.call = .dropped) :=
    ⟨fun result hresult => absurd hresult (h.1 result), fun hdropped => absurd hdropped h.2⟩
  have hplain : Output.silent.OfWait ∧ Output.expectFailed.OfWait :=
    ⟨⟨by rintro _ ⟨⟩, by rintro ⟨⟩⟩, by rintro _ ⟨⟩, by rintro ⟨⟩⟩
  cases action with
  | start spawnError =>
    obtain ⟨-, heq⟩ := Option.ite_none_right_eq_some.mp hstep
    have hstart : s.start spawnError = (output, s') := Option.some.inj heq
    refine ⟨?_, ?_⟩
    · rintro result rfl
      exact ⟨spawnError, hstart⟩
    · rintro rfl
      unfold State.start at hstart
      split_ifs at hstart
      · cases hstart
      · split at hstart
        · split at hstart <;> cases hstart
        · cases hstart
  | waitForCompletion timeout =>
    obtain ⟨-, heq⟩ := Option.ite_none_right_eq_some.mp hstep
    apply hwait
    rw [← show (s.waitForCompletion timeout).1 = output by rw [Option.some.inj heq]]
    unfold State.waitForCompletion
    split_ifs
    · exact ⟨by rintro _ ⟨⟩, by rintro ⟨⟩⟩
    · exact record_ofWait _ timeout
  | stop timeout =>
    obtain ⟨-, heq⟩ := Option.ite_none_right_eq_some.mp hstep
    apply hwait
    rw [← show (s.stop timeout).1 = output by rw [Option.some.inj heq]]
    unfold State.stop
    split_ifs
    · split
      · exact record_ofWait _ timeout
      · exact hplain.2
    · split
      · exact ⟨by rintro _ ⟨⟩, by rintro ⟨⟩⟩
      · exact hplain.2
  | drop =>
    obtain ⟨-, heq⟩ := Option.ite_none_right_eq_some.mp hstep
    unfold State.drop at heq
    split at heq
    · cases heq
      exact ⟨by rintro _ ⟨⟩, fun _ => rfl⟩
    · dsimp only at heq
      split_ifs at heq
      · cases heq
        exact hwait hplain.1
      · cases heq
        exact ⟨by rintro _ ⟨⟩, fun _ => rfl⟩
  | receive expired =>
    have hreceive : s.receive expired = some (output, s') := hstep
    unfold State.receive at hreceive
    split at hreceive
    · cases hreceive
    · rw [← show _ = output from congrArg Prod.fst (Option.some.inj hreceive)]
      exact hwait (answered_ofWait _ _)
    · cases hreceive
      exact hwait hplain.1
  | join =>
    have hjoin : s.join = some (output, s') := hstep
    unfold State.join at hjoin
    split at hjoin
    · cases hjoin
    · split at hjoin
      · cases hjoin
        exact ⟨by rintro _ ⟨⟩, fun _ => rfl⟩
      · cases hjoin
      · split at hjoin
        · cases hjoin
        · rw [← show _ = output from congrArg Prod.fst (Option.some.inj hjoin)]
          exact hwait (answered_ofWait _ _)
        · cases hjoin
          exact hwait hplain.2
  | worker action =>
    obtain ⟨_, -, heq⟩ := Option.map_eq_some_iff.mp hstep
    cases heq
    exact hwait hplain.1
  | emit event =>
    have hemit : s.emit event = some (output, s') := hstep
    unfold State.emit at hemit
    split at hemit <;> cases hemit
    exact hwait hplain.1

/-- Once a wait or a stop has returned the outcome, in any interleaving, the callback is not called
again and the worker makes no step, every later call returns the same outcome, and what the
callback saw stays. Once the supervisor is dropped, nothing happens any more. -/
theorem no_callback_after_outcome (hnew : State.forSource = some s₀) (h : system.Run s₀ ls s)
    (before after : List (Action × Output)) (hls : ls = before ++ l :: after) :
    (∀ completion, Returns l completion →
      (∀ e ∈ after, Repeats completion e) ∧ s.supervisor.completion = some completion ∧
      ∃ t, system.Run s₀ (before ++ [l]) t ∧
        s.supervisor.observation = t.supervisor.observation) ∧
    (l.2 = .dropped → after = []) := by
  subst hls
  obtain ⟨t, hbefore, hrest⟩ := TransitionSystem.run_append.mp h
  obtain ⟨u, hstep, hafter⟩ := TransitionSystem.run_cons.mp hrest
  obtain ⟨⟨cs, a, -, -, hsimulates⟩, -⟩ := (simulates_forSource hnew).2.run hbefore
  have hmoves := hsimulates.step hstep
  obtain ⟨cs', a', -, -, hsimulates'⟩ := hmoves.simulates
  constructor
  · intro completion hreturns
    obtain ⟨hall, hkept, hobservation⟩ :=
      hsimulates'.repeats_run (hmoves.returned completion hreturns) hafter
    exact ⟨hall, hkept, u, TransitionSystem.run_snoc.mpr ⟨t, hbefore, hstep⟩, hobservation⟩
  · intro hdropped
    cases after with
    | nil => rfl
    | cons e after =>
      obtain ⟨v, hnext, -⟩ := TransitionSystem.run_cons.mp hafter
      exact absurd hnext (hsimulates'.not_step_of_dropped ((output_of_step hstep).2 hdropped))

/-- The consumer of a run that timed out and panicked is left alone after its outcome. -/
theorem no_callback_after_outcome_stopped : ∃ s₀ s, State.forSource = some s₀ ∧
    system.Run s₀ (stoppedRun (streamIdOf 1 1) (.fromSecs 1)) s ∧
    s.supervisor.completion = some .panicked := by
  obtain ⟨s₀, s, hnew, hrun⟩ := exists_stoppedRun (streamIdOf 1 1) (.fromSecs 1)
  obtain ⟨houtcome, -⟩ := no_callback_after_outcome hnew hrun
    ((stoppedRun (streamIdOf 1 1) (.fromSecs 1)).take 10)
    ((stoppedRun (streamIdOf 1 1) (.fromSecs 1)).drop 11) rfl
  exact ⟨s₀, s, hnew, hrun, (houtcome .panicked (.inl rfl)).2.1⟩

/-! ## After a stop -/

/-- A run keeps the end of an intent. -/
theorem Simulates.ended_run (h : Simulates a s₀) (hended : Ended s₀.supervisor)
    (hrun : system.Run s₀ ls s) :
    Ended s.supervisor ∧ (∃ a', Simulates a' s) ∧
      ∀ l ∈ ls, ∀ result, l.2 = .started result → ∃ state, result = .error (.notIdle state) := by
  induction ls generalizing s₀ a with
  | nil =>
    cases TransitionSystem.run_nil.mp hrun
    exact ⟨hended, ⟨a, h⟩, by rintro _ ⟨⟩⟩
  | cons l ls ih =>
    obtain ⟨t, hstep, hrest⟩ := TransitionSystem.run_cons.mp hrun
    have hmoves := h.step hstep
    obtain ⟨cs, a', -, -, hsimulates⟩ := hmoves.simulates
    obtain ⟨hlast, hlasts, hall⟩ := ih hsimulates (hmoves.ended (.inl hended)) hrest
    refine ⟨hlast, hlasts, List.forall_mem_cons.mpr ⟨?_, hall⟩⟩
    rintro result hresult
    obtain ⟨spawnError, hstart⟩ := (output_of_step hstep).1 result hresult
    cases (start_refused hended.1 spawnError).symm.trans hstart
    exact ⟨_, rfl⟩

/-- Where the intent has ended, the owner has been asked to stop, or is gone. -/
theorem Simulates.stopRequested (h : Simulates a s) (hended : Ended s.supervisor) :
    ∀ owner, s.owner = some owner → owner.stopRequested = true ∨ Gone owner := by
  have hwanted {wanted : Bool} {b : CaptureSupervisor} (howned : b.Owned wanted) (hb : Ended b) :
      wanted = false := (owned_desiredRunning howned).symm.trans hb.2
  cases h with
  | unowned => rintro _ ⟨⟩
  | ready wanted stop worker channel hstate howned hreached hstop =>
    rintro _ ⟨⟩
    exact .inl (hstop (hwanted howned hended))
  | waiting wanted owner hstate howned hreached hblocked hstop =>
    rintro _ ⟨⟩
    exact .inl (hstop (hwanted howned hended))
  | stopping stopped wanted owner hstate howned hstopped hdisabled hreached hblocked hstop =>
    rintro _ ⟨⟩
    exact .inl hstop
  | joined hlifecycle owner completion hreached hjoined =>
    rintro _ ⟨⟩
    exact .inr (gone_of_joined hjoined)
  | dropping =>
    rintro _ ⟨⟩
    exact .inl rfl
  | dropped hlifecycle owner hgone => exact fun left hleft => .inr (hgone left hleft)

/-- Once a stop was called, even one that its owner did not answer in time, in any interleaving:
capture is not wanted, no replacement is eligible, the owner was asked to stop or is gone, and no
later start creates another. -/
theorem stop_is_final (hnew : State.forSource = some s₀) (h : system.Run s₀ ls s)
    (before after : List (Action × Output)) {timeout : Duration} {output : Output}
    (hls : ls = before ++ (.stop timeout, output) :: after) :
    s.supervisor.desiredRunning = false ∧ s.supervisor.replacementEligible = false ∧
      (∀ owner, s.owner = some owner → owner.stopRequested = true ∨ Gone owner) ∧
      ∀ e ∈ after, ∀ result, e.2 = .started result → ∃ state, result = .error (.notIdle state) := by
  subst hls
  obtain ⟨t, hbefore, hrest⟩ := TransitionSystem.run_append.mp h
  obtain ⟨u, hstep, hafter⟩ := TransitionSystem.run_cons.mp hrest
  obtain ⟨⟨cs, a, -, -, hsimulates⟩, -⟩ := (simulates_forSource hnew).2.run hbefore
  have hmoves := hsimulates.step hstep
  obtain ⟨cs', a', -, -, hsimulates'⟩ := hmoves.simulates
  obtain ⟨hended, ⟨last, hlast⟩, hstarted⟩ :=
    hsimulates'.ended_run (hmoves.ended (.inr ⟨timeout, rfl⟩)) hafter
  refine ⟨hended.2, ?_, hlast.stopRequested hended, hstarted⟩
  have hdesired : s.supervisor.retryState.desiredRunning = false := hended.2
  unfold CaptureSupervisor.replacementEligible
  rw [hdesired]
  rfl

/-- A stop that timed out is final. -/
theorem stop_is_final_stopped : ∃ s₀ s, State.forSource = some s₀ ∧
    system.Run s₀ (stoppedRun (streamIdOf 1 1) (.fromSecs 1)) s ∧
    s.supervisor.desiredRunning = false := by
  obtain ⟨s₀, s, hnew, hrun⟩ := exists_stoppedRun (streamIdOf 1 1) (.fromSecs 1)
  exact ⟨s₀, s, hnew, hrun, (stop_is_final hnew hrun
    ((stoppedRun (streamIdOf 1 1) (.fromSecs 1)).take 3)
    ((stoppedRun (streamIdOf 1 1) (.fromSecs 1)).drop 4) rfl).1⟩

/-! ## Another wait can succeed -/

/-- A run of the worker between two calls of the supervisor. -/
theorem exists_worker_run {owner owner' : CaptureOwner.State}
    (h : CaptureOwner.WorkerRun owner owner') (supervisor : CaptureSupervisor) (call : Pending) :
    ∃ ls, system.Run ⟨supervisor, some owner, call⟩ ls ⟨supervisor, some owner', call⟩ ∧
      ∀ l ∈ ls, ∃ action, l.1 = .worker action := by
  obtain ⟨os, hrun, hos⟩ := h
  induction os generalizing owner with
  | nil =>
    cases TransitionSystem.run_nil.mp hrun
    exact ⟨[], rfl, by rintro _ ⟨⟩⟩
  | cons o os ih =>
    obtain ⟨middle, hstep, hrest⟩ := TransitionSystem.run_cons.mp hrun
    obtain ⟨⟨action, haction⟩, hothers⟩ := List.forall_mem_cons.mp hos
    obtain ⟨first, output⟩ := o
    cases haction
    have hworker : owner.workerStep action = some (output, middle) := hstep
    obtain ⟨ls, hls, hworkers⟩ := ih hrest hothers
    refine ⟨(.worker action, .silent) :: ls, ⟨_, ?_, hls⟩,
      List.forall_mem_cons.mpr ⟨⟨action, rfl⟩, hworkers⟩⟩
    show State.workerStep _ action = _
    unfold State.workerStep
    rw [Option.bind_some, hworker]
    rfl

/-- A wait for a worker that is gone receives its completion, or that there is none, and joins it.
-/
theorem exists_received (stop panicked : Bool) (channel : Channel CaptureOwnerCompletion 1)
    (hsender : channel.sender = false) (timeout : Duration) :
    ∃ owner owner' completion,
      CaptureOwner.State.receive
        { unjoined stop (.exited panicked) channel with call := .receiving timeout } false
        = some (.silent, owner) ∧
      owner.join = some (.waited (.ok completion), owner') ∧
      CaptureOwner.Joined completion owner' := by
  have hstored (received : CaptureOwnerCompletion) (rest : Channel CaptureOwnerCompletion 1) :
      ∃ owner' completion, CaptureOwner.State.join
        ⟨CaptureOwner.done received, stop, some (.exited panicked), rest, .joining⟩
          = some (.waited (.ok completion), owner') ∧ CaptureOwner.Joined completion owner' := by
    -- The join of a worker that panicked says so, whatever was received.
    cases panicked with
    | true => exact ⟨_, .panicked, rfl, rfl, rfl, by rintro _ ⟨⟩; exact ⟨true, rfl⟩⟩
    | false => exact ⟨_, received, rfl, rfl, rfl, by rintro _ ⟨⟩; exact ⟨false, rfl⟩⟩
  have hreceives : ∃ received rest, CaptureOwner.State.receive
      { unjoined stop (.exited panicked) channel with call := .receiving timeout } false
      = some (.silent,
        ⟨CaptureOwner.done received, stop, some (.exited panicked), rest, .joining⟩) := by
    unfold CaptureOwner.State.receive unjoined
    dsimp only
    cases hrecv : channel.tryRecv with
    | ok received => exact ⟨received.1, received.2.dropReceiver, rfl⟩
    | error error =>
      cases error with
      | empty =>
        -- The worker has dropped its end, so the channel is not merely empty.
        rw [(Channel.tryRecv_empty_iff.mp hrecv).2] at hsender
        cases hsender
      | disconnected => exact ⟨.panicked, channel.dropReceiver, rfl⟩
  obtain ⟨received, rest, hreceive⟩ := hreceives
  obtain ⟨owner', completion, hjoin, hjoined⟩ := hstored received rest
  exact ⟨_, owner', completion, hreceive, hjoin, hjoined⟩

/-- The steps of one wait that returns `completion`, and nothing between them: an outcome that the
supervisor has is answered at once; otherwise the owner receives it and joins its worker. -/
inductive Wait (timeout : Duration) (completion : CaptureSupervisorCompletion) :
    List (Action × Output) → Prop
  | immediate : Wait timeout completion [(.waitForCompletion timeout, .waited (.ok completion))]
  | received : Wait timeout completion
      [(.waitForCompletion timeout, .silent), (.receive false, .silent),
        (.join, .waited (.ok completion))]

/-- From every state between two calls of a supervisor that was started, whatever timed out before:
after steps of the worker alone, another wait returns the outcome, by its own steps. -/
theorem wait_can_succeed (hnew : State.forSource = some s₀) (h : system.Run s₀ ls s)
    (hidle : s.call = .idle) (hstarted : s.supervisor.state ≠ .idle) (timeout : Duration) :
    ∃ before wait t s' completion, system.Run s before t ∧
      (∀ l ∈ before, ∃ action, l.1 = .worker action) ∧ system.Run t wait s' ∧
      Wait timeout completion wait ∧
      s'.supervisor.completion = some completion ∧ s'.supervisor.resourcesReleased = true := by
  obtain ⟨⟨cs, a, -, -, hsimulates⟩, -⟩ := (simulates_forSource hnew).2.run h
  have himmediate (hlifecycle : s.supervisor.Lifecycle) (hover : s.supervisor.Over) :
      ∃ before wait t s' completion, system.Run s before t ∧
        (∀ l ∈ before, ∃ action, l.1 = .worker action) ∧ system.Run t wait s' ∧
        Wait timeout completion wait ∧
        s'.supervisor.completion = some completion ∧ s'.supervisor.resourcesReleased = true := by
    obtain ⟨completion, hcompletion, hwait⟩ := wait_over hover hidle timeout
    refine ⟨[], [(.waitForCompletion timeout, .waited (.ok completion))], s, s, completion, rfl,
      by rintro _ ⟨⟩, ⟨s, ?_, rfl⟩, .immediate, hcompletion, hover.released⟩
    show (if s.call = .idle then some (s.waitForCompletion timeout) else none) = _
    rw [if_pos hidle, hwait]
  cases hsimulates with
  | unowned hlifecycle hstate =>
    rcases hstate with hstate | hstopped
    · exact absurd hstate hstarted
    · exact himmediate hlifecycle (over_of_completion hlifecycle (by simp [hstopped]))
  | joined hlifecycle owner completion hreached hjoined hcompletion =>
    exact himmediate hlifecycle (over_of_completion hlifecycle (by simp [hcompletion]))
  | ready wanted stop worker channel hstate howned hreached hstop =>
    have hunsent : CaptureOwner.Unsent worker channel := by
      cases hreached.lifecycle with
      | working _ _ _ _ _ hunsent => exact hunsent
    obtain ⟨channel', panicked, hsender, hworker⟩ :=
      CaptureOwner.exists_exited stop worker channel hunsent
    -- The worker goes on to its end, and the wait then receives its completion and joins it.
    obtain ⟨before, hbefore, hworkers⟩ := exists_worker_run hworker a .idle
    obtain ⟨owner, owner', completion, hreceive, hjoin, hjoined⟩ :=
      exists_received stop panicked channel' hsender timeout
    obtain ⟨a', hrecord, hlast, hcompletion, -, hanswered⟩ :=
      answered_ok howned owner' .waiting completion
    set gone := unjoined stop (.exited panicked) channel' with hgone
    have hwait : system.step ⟨a, some gone, .idle⟩ (.waitForCompletion timeout, .silent)
        ⟨a, some { gone with call := .receiving timeout }, .waiting⟩ := by
      show some (State.waitForCompletion ⟨a, some gone, .idle⟩ timeout) = _
      unfold State.waitForCompletion State.record
      rw [if_neg (by exact hstarted), if_neg (by simp [howned.completion])]
      rfl
    have hreceived : system.step ⟨a, some { gone with call := .receiving timeout }, .waiting⟩
        (.receive false, .silent) ⟨a, some owner, .waiting⟩ := by
      show State.receive _ false = _
      unfold State.receive
      rw [Option.bind_some, hreceive]
    have hjoins : State.join ⟨a, some owner, .waiting⟩
        = some (.waited (.ok completion.summary), ⟨a', some owner', .idle⟩) := by
      unfold State.join
      dsimp only
      rw [hjoin]
      exact congrArg some hanswered
    exact ⟨before, [(.waitForCompletion timeout, .silent), (.receive false, .silent),
      (.join, .waited (.ok completion.summary))], _, ⟨a', some owner', .idle⟩, completion.summary,
      hbefore, hworkers, ⟨_, hwait, _, hreceived, _, hjoins, rfl⟩, .received, hcompletion,
      (over_of_completion hlast (by simp [hcompletion])).released⟩
  | _ => cases hidle

/-- A supervisor that has started, and was not stopped: its worker ends by itself, and a wait of one
second returns the outcome. -/
theorem wait_can_succeed_started : ∃ s₀ s, State.forSource = some s₀ ∧
    system.Run s₀ [(.start none, .started (.ok .started))] s ∧
    ∃ before wait t s' completion, system.Run s before t ∧
      (∀ l ∈ before, ∃ action, l.1 = .worker action) ∧ system.Run t wait s' ∧
      Wait (.fromSecs 1) completion wait ∧
      s'.supervisor.completion = some completion ∧ s'.supervisor.resourcesReleased = true := by
  obtain ⟨configuration, retryState, hretry, hfactory⟩ := CaptureSupervisor.withFactory_eq
  have hrun : ∃ s, system.Run ⟨.inert configuration retryState, none, .idle⟩
      [(.start none, .started (.ok .started))] s ∧ s.call = .idle ∧
      s.supervisor.state = .running := by
    cases hretry
    exact ⟨_, ⟨_, rfl, rfl⟩, rfl, rfl⟩
  obtain ⟨s, hrun, hidle, hrunning⟩ := hrun
  have hnew : State.forSource = some ⟨.inert configuration retryState, none, .idle⟩ := by
    unfold State.forSource
    rw [hfactory]
    rfl
  exact ⟨_, s, hnew, hrun, wait_can_succeed hnew hrun hidle (by simp [hrunning]) (.fromSecs 1)⟩

end SupervisedCapture

end ResonanceSignal
