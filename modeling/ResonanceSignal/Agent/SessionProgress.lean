import ResonanceSignal.Agent.SessionDelivery

/-!
# How a session ends

The four parties of a session wait for each other: the session loop for the queue, and after the
loop for the capture task; the capture task for the worker. What is left to do, counted in steps
(`work`), shows that they never wait in a circle and never go on forever. Every step takes one of
the work, and only a message of the client, a shutdown of the service and a wait that expires give
some back (`work_step`). Unless the socket is closed, some step of the session's own takes one off
(`exists_unprompted`): the loop can only wait while the capture task has not returned, and the task
only while the worker has not.

So a session can always close by itself (`can_close`); and once it was told to stop, in whichever
way, it does so, however the steps interleave (`closes_after_stop`): then a wait that expires takes
one off as well.
-/

namespace ResonanceSignal

/-! ## Work -/

/-- The steps that the messages of events take: for each event one that encodes it and one that
returns, and for each of its messages one that sends it and three of the session loop. -/
def SessionEncoder.workOf (self : SessionEncoder) : List StreamEvent → ℕ
  | [] => 0
  | event :: events =>
    match self.encode event with
    | none => 1
    | some (.error _, next) => 2 + next.workOf events
    | some (.ok messages, next) => 4 * messages.length + 2 + next.workOf events

/-- The steps that the messages of the callback take. -/
def CallbackStage.work : CallbackStage → ℕ
  | idle => 0
  | sending _ messages => 4 * messages.length + 1
  | failing _ => 1

/-- The steps that are left to the capture task, with those that its messages take. Once it was told
to stop, it waits no more than once. -/
def CaptureTaskStage.work (told : Bool) : CaptureTaskStage → ℕ
  | starting => 15
  | polling => if told then 12 else 14
  | waiting => 13
  | stopping => 11
  | reporting => 9
  | finishing => 5
  | releasing => 1
  | returned => 0

/-- The steps that are left to the session loop. -/
def SessionStage.work : SessionStage → ℕ
  | stopping => 6
  | checkingHealth => 5
  | checkingShutdown => 4
  | selecting => 3
  | leaving => 2
  | awaiting => 1
  | closed => 0

namespace Session

/-- The capture task finds that it is to stop when it looks at the flags. -/
def told (s : Session) : Bool := s.stop || s.unhealthy || s.shuttingDown

/-- The steps that are left to a session. -/
def work (s : Session) : ℕ :=
  s.encoder.workOf s.upcoming + s.callback.work + 3 * s.events.queue.length + s.task.work s.told
    + s.stage.work

/-- The work that a step gives back: a message of the client sends the loop round again, and a wait
that expires the capture task. -/
def Action.credit : Action → ℕ
  | .client _ => 4
  | .expire => 2
  | .shutDown => 1
  | .event | .send | .fail => 0
  | .start _ | .poll | .complete | .report | .finish | .release => 0
  | .checkHealth | .checkShutdown | .receive | .storeStop | .leave | .close => 0

variable {s s' : Session}

/-- The relabelled end of a stream takes the same steps. -/
theorem workOf_relabel (encoder : SessionEncoder) (clientStop : Bool) (event : StreamEvent)
    (events : List StreamEvent) :
    encoder.workOf (relabel clientStop event :: events) = encoder.workOf (event :: events) := by
  obtain h | ⟨streamId, reason, reason', rfl, h⟩ := relabel_cases clientStop event
  · rw [h]
  · rw [h]
    rfl

/-- To be told to stop does not make work. -/
theorem taskWork_told (stage : CaptureTaskStage) (told : Bool) :
    stage.work true ≤ stage.work told := by
  cases stage <;> cases told <;> decide

/-! ## Every step takes one of the work -/

/-- An event becomes its messages. -/
theorem Passes.work_lt (h : Passes s s') : s'.work < s.work := by
  cases h with
  | @panicked event upcoming hupcoming hidle hencode =>
    have hwork : s.encoder.workOf s.upcoming = 1 := by
      rw [hupcoming, ← workOf_relabel s.encoder s.clientStop, SessionEncoder.workOf, hencode]
    have hnone : s.encoder.workOf [] = 0 := rfl
    unfold work told
    dsimp only
    omega
  | @failed event upcoming error encoder hupcoming hidle hencode =>
    have hwork : s.encoder.workOf s.upcoming = 2 + encoder.workOf upcoming := by
      rw [hupcoming, ← workOf_relabel s.encoder s.clientStop, SessionEncoder.workOf, hencode]
    unfold work told
    dsimp only [CallbackStage.work]
    omega
  | @encoded event upcoming messages encoder hupcoming hidle hencode =>
    have hwork : s.encoder.workOf s.upcoming
        = 4 * messages.length + 2 + encoder.workOf upcoming := by
      rw [hupcoming, ← workOf_relabel s.encoder s.clientStop, SessionEncoder.workOf, hencode]
    unfold work told
    dsimp only [CallbackStage.work]
    omega

/-- A message of the callback is queued, or its event is given up. -/
theorem Sends.work_lt (h : Sends s s') : s'.work < s.work := by
  cases h with
  | @queued event message messages events hcallback hreceiver hreceiver' hsender hqueue =>
    have hlength := congrArg List.length hqueue
    rw [List.length_append, List.length_singleton] at hlength
    unfold work told
    rw [hcallback]
    dsimp only [CallbackStage.work, List.length_cons]
    omega
  | refused hcallback hevents =>
    unfold work told
    rw [hcallback]
    dsimp only [CallbackStage.work, List.length_cons]
    omega
  | returned hcallback =>
    unfold work told
    rw [hcallback]
    dsimp only [CallbackStage.work, List.length_nil]
    omega

/-- The callback says that a window was refused, and returns. -/
theorem work_storeUnhealthy (h : s.storeUnhealthy = some s') : s'.work < s.work := by
  obtain ⟨event, hcallback, rfl⟩ := storeUnhealthy_eq_some h
  have htask := taskWork_told s.task s.told
  have htold : told { s with
      unhealthy := true, callback := .idle, observation := s.observation.observe event } = true := by
    simp [told]
  unfold work
  rw [htold, hcallback]
  dsimp only [CallbackStage.work]
  omega

/-- An offer makes no more work than the message it queues. -/
theorem offer_queue_le (s : Session) (message : SessionMessage) :
    (s.offer message).events.queue.length ≤ s.events.queue.length + 1 := by
  obtain ⟨events, heq, -, ⟨-, hqueue⟩ | ⟨rfl, -⟩⟩ := offer_cases s message
  · rw [heq]
    dsimp only
    rw [hqueue, List.length_append, List.length_singleton]
  · rw [heq]
    exact Nat.le_succ _

/-- A step of the capture task takes one of the work, but for a wait that expires before it was told
to stop. -/
theorem work_captureTask {a : Action} (ha : a.party = .captureTask) (h : s.step a = some s') :
    s'.work < s.work + if s.told then 0 else a.credit := by
  -- With the flags as they were, the work is that of the task, the queue and the events to come.
  have hlt (events : Channel SessionMessage eventQueueCapacity) {upcoming : List StreamEvent}
      {task : CaptureTaskStage} {ownerCompletion : Option CaptureOwnerCompletion} {credit : ℕ}
      (hupcoming : s.encoder.workOf upcoming ≤ s.encoder.workOf s.upcoming)
      (htask : 3 * events.queue.length + task.work s.told
        < 3 * s.events.queue.length + s.task.work s.told + credit) :
      work { s with events, upcoming, task, ownerCompletion } < s.work + credit := by
    show s.encoder.workOf upcoming + s.callback.work + 3 * events.queue.length + task.work s.told
      + s.stage.work < s.encoder.workOf s.upcoming + s.callback.work + 3 * s.events.queue.length
        + s.task.work s.told + s.stage.work + credit
    omega
  have hoffer (message : SessionMessage) : ∃ events, s.offer message = { s with events } ∧
      events.queue.length ≤ s.events.queue.length + 1 := by
    have hle := offer_queue_le s message
    obtain ⟨events, heq, -⟩ := offer_cases s message
    rw [heq] at hle
    exact ⟨events, heq, hle⟩
  cases a with
  | start started =>
    obtain ⟨htask, rfl | rfl⟩ := startCapture_eq_some h
    · refine hlt _ le_rfl ?_
      rw [htask]
      dsimp only [CaptureTaskStage.work]
      split_ifs <;> omega
    · obtain ⟨events, heq, hle⟩ := hoffer (.startupFailure .internal .doNotRetry)
      rw [heq]
      refine hlt _ (Nat.zero_le _) ?_
      rw [htask]
      dsimp only [CaptureTaskStage.work]
      omega
  | poll =>
    have hpolled : s.poll = some s' := h
    unfold poll at hpolled
    split at hpolled
    next htask =>
      have htold : (s.stop || s.unhealthy || s.shuttingDown) = s.told := rfl
      rw [htold] at hpolled
      split_ifs at hpolled with hstopped
      · cases hpolled
        refine hlt _ le_rfl ?_
        rw [htask, hstopped]
        exact Nat.add_lt_add_left (by decide) _
      · cases hpolled
        refine hlt _ le_rfl ?_
        rw [htask, Bool.eq_false_iff.mpr hstopped]
        exact Nat.add_lt_add_left (by decide) _
    next => cases hpolled
  | complete =>
    obtain ⟨-, htask | htask, rfl⟩ := complete_eq_some h
    · refine hlt _ le_rfl ?_
      rw [htask]
      dsimp only [CaptureTaskStage.work]
      omega
    · refine hlt _ le_rfl ?_
      rw [htask]
      dsimp only [CaptureTaskStage.work]
      omega
  | expire =>
    rcases expire_eq_some h with ⟨htask, rfl⟩ | ⟨htask, rfl⟩
    · refine hlt _ le_rfl ?_
      rw [htask]
      dsimp only [CaptureTaskStage.work, Action.credit]
      split_ifs <;> omega
    · refine hlt _ le_rfl ?_
      rw [htask]
      dsimp only [CaptureTaskStage.work]
      omega
  | report =>
    obtain ⟨htask, ⟨error, -, -, rfl⟩ | rfl⟩ := report_eq_some h
    · obtain ⟨events, heq, hle⟩ := hoffer (.startupFailure error.kind error.retryHint)
      rw [heq]
      refine hlt _ le_rfl ?_
      rw [htask]
      dsimp only [CaptureTaskStage.work]
      omega
    · refine hlt _ le_rfl ?_
      rw [htask]
      dsimp only [CaptureTaskStage.work]
      omega
  | finish =>
    obtain ⟨htask, rfl⟩ := finish_eq_some h
    obtain ⟨events, heq, hle⟩ := hoffer .finished
    rw [heq]
    refine hlt _ le_rfl ?_
    rw [htask]
    dsimp only [CaptureTaskStage.work]
    omega
  | release =>
    obtain ⟨-, htask, rfl⟩ := release_eq_some h
    refine hlt s.events.dropSender le_rfl ?_
    rw [htask]
    dsimp only [CaptureTaskStage.work, Channel.dropSender]
    omega
  | event | send | fail | shutDown => cases ha
  | checkHealth | checkShutdown | receive | client _ | storeStop | leave | close => cases ha

/-- A step of the session loop takes one of the work, but for a message of the client. -/
theorem work_sessionLoop {a : Action} (ha : a.party = .sessionLoop) (h : s.step a = some s') :
    s'.work < s.work + a.credit := by
  -- With the flags as they were, the work is that of the loop and the queue.
  have hlt (events : Channel SessionMessage eventQueueCapacity) {stop clientStop : Bool}
      {stage : SessionStage} {written : List SocketMessage} {credit : ℕ}
      (hstop : s.stop = true → stop = true)
      (hstage : 3 * events.queue.length + stage.work
        < 3 * s.events.queue.length + s.stage.work + credit) :
      work { s with stop, clientStop, events, stage, written } < s.work + credit := by
    have htask : s.task.work (stop || s.unhealthy || s.shuttingDown) ≤ s.task.work s.told := by
      cases hnow : stop with
      | true => exact taskWork_told s.task s.told
      | false =>
        have hbefore : s.stop = false := by
          cases hs : s.stop with
          | false => rfl
          | true => rw [hstop hs] at hnow; cases hnow
        unfold told
        rw [hbefore]
    show s.encoder.workOf s.upcoming + s.callback.work + 3 * events.queue.length
        + s.task.work (stop || s.unhealthy || s.shuttingDown) + stage.work
      < s.encoder.workOf s.upcoming + s.callback.work + 3 * s.events.queue.length
        + s.task.work s.told + s.stage.work + credit
    omega
  cases a with
  | checkHealth =>
    obtain ⟨hstage, ⟨-, rfl⟩ | ⟨-, rfl⟩⟩ := checkHealth_eq_some h
    · refine hlt _ id ?_
      rw [hstage]
      exact Nat.add_lt_add_left (by decide) _
    · refine hlt _ id ?_
      rw [hstage]
      exact Nat.add_lt_add_left (by decide) _
  | checkShutdown =>
    obtain ⟨hstage, ⟨-, rfl⟩ | ⟨-, rfl⟩⟩ := checkShutdown_eq_some h
    · refine hlt _ id ?_
      rw [hstage]
      exact Nat.add_lt_add_left (by decide) _
    · refine hlt _ id ?_
      rw [hstage]
      exact Nat.add_lt_add_left (by decide) _
  | receive =>
    obtain ⟨hstage, hreceives⟩ := receives_of_receive h
    cases hreceives with
    | event hqueue hreceiver hsender =>
      refine hlt _ id ?_
      rw [hstage, hqueue]
      dsimp only [SessionStage.work, Action.credit, List.length_cons]
      omega
    | startupFailure hqueue =>
      refine hlt _ id ?_
      rw [hstage, hqueue]
      dsimp only [SessionStage.work, Action.credit, List.length_cons]
      omega
    | finished hqueue =>
      refine hlt _ id ?_
      rw [hstage, hqueue]
      dsimp only [SessionStage.work, Action.credit, List.length_cons]
      omega
    | disconnected hqueue hsender =>
      refine hlt _ id ?_
      rw [hstage]
      exact Nat.add_lt_add_left (by decide) _
  | client message =>
    obtain ⟨hstage, clientStop, stage, answers, rfl, hnext, -⟩ := client_eq_some h
    refine hlt _ id ?_
    rw [hstage]
    rcases hnext with rfl | rfl | rfl
    · dsimp only [SessionStage.work, Action.credit]
      omega
    · dsimp only [SessionStage.work, Action.credit]
      omega
    · dsimp only [SessionStage.work, Action.credit]
      omega
  | storeStop =>
    obtain ⟨hstage, rfl⟩ := storeStop_eq_some h
    refine hlt _ (fun _ => rfl) ?_
    rw [hstage]
    exact Nat.add_lt_add_left (by decide) _
  | leave =>
    obtain ⟨hstage, rfl⟩ := leave_eq_some h
    refine hlt s.events.dropReceiver (fun _ => rfl) ?_
    rw [hstage]
    dsimp only [SessionStage.work, Action.credit, Channel.dropReceiver, List.length_nil]
    omega
  | close =>
    obtain ⟨hstage, -, rfl⟩ := closeSocket_eq_some h
    refine hlt _ id ?_
    rw [hstage]
    exact Nat.add_lt_add_left (by decide) _
  | event | send | fail | shutDown => cases ha
  | start _ | poll | complete | expire | report | finish | release => cases ha

/-- Every step takes one of the work, up to what it gives back. Once the session was told to stop, a
wait that expires gives nothing back. -/
theorem work_step {a : Action} (h : s.step a = some s') :
    s'.work < s.work + if s.told ∧ a = .expire then 0 else a.credit := by
  cases hparty : a.party with
  | worker =>
    cases a with
    | event => exact Nat.lt_add_right _ (passes_of_passEvent h).2.work_lt
    | send => exact Nat.lt_add_right _ (sends_of_sendNext h).work_lt
    | fail => exact Nat.lt_add_right _ (work_storeUnhealthy h)
    | start _ | poll | complete | expire | report | finish | release => cases hparty
    | checkHealth | checkShutdown | receive | client _ | storeStop | leave | close | shutDown =>
      cases hparty
  | captureTask =>
    have hlt := work_captureTask hparty h
    by_cases ha : a = .expire
    · subst ha
      simpa using hlt
    · -- The other steps of the capture task give nothing back anyway.
      have hcredit : a.credit = 0 := by
        cases a with
        | expire => exact absurd rfl ha
        | start _ | poll | complete | report | finish | release => rfl
        | event | send | fail | shutDown => cases hparty
        | checkHealth | checkShutdown | receive | client _ | storeStop | leave | close =>
          cases hparty
      simpa [hcredit] using hlt
  | sessionLoop =>
    have hlt := work_sessionLoop hparty h
    have ha : a ≠ .expire := by
      rintro rfl
      cases hparty
    simpa [ha] using hlt
  | service =>
    cases a with
    | shutDown =>
      cases h
      have htask := taskWork_told s.task s.told
      have htold : told { s with shuttingDown := true } = true := by simp [told]
      rw [if_neg (by simp)]
      unfold work
      rw [htold]
      dsimp only [Action.credit]
      omega
    | event | send | fail | start _ | poll | complete | expire | report | finish | release =>
      cases hparty
    | checkHealth | checkShutdown | receive | client _ | storeStop | leave | close => cases hparty

/-- A session that was told to stop stays so. -/
theorem told_of_step {a : Action} (h : s.step a = some s') (hs : s.told = true) :
    s'.told = true := by
  have hoffer (message : SessionMessage) : (s.offer message).told = true := by
    obtain ⟨events, heq, -⟩ := offer_cases s message
    rw [heq]
    exact hs
  cases a with
  | event =>
    cases (passes_of_passEvent h).2 with
    | panicked hupcoming hidle hencode => exact hs
    | failed hupcoming hidle hencode => exact hs
    | encoded hupcoming hidle hencode => exact hs
  | send =>
    cases sends_of_sendNext h with
    | queued hcallback hreceiver hreceiver' hsender hqueue => exact hs
    | refused hcallback hevents => exact hs
    | returned hcallback => exact hs
  | fail =>
    obtain ⟨event, hcallback, rfl⟩ := storeUnhealthy_eq_some h
    simp [told]
  | start started =>
    obtain ⟨-, rfl | rfl⟩ := startCapture_eq_some h
    · exact hs
    · exact hoffer _
  | poll => obtain ⟨-, rfl | rfl⟩ := poll_eq_some h <;> exact hs
  | complete =>
    obtain ⟨-, -, rfl⟩ := complete_eq_some h
    exact hs
  | expire => rcases expire_eq_some h with ⟨-, rfl⟩ | ⟨-, rfl⟩ <;> exact hs
  | report =>
    obtain ⟨-, ⟨error, -, -, rfl⟩ | rfl⟩ := report_eq_some h
    · exact hoffer _
    · exact hs
  | finish =>
    obtain ⟨-, rfl⟩ := finish_eq_some h
    exact hoffer _
  | release =>
    obtain ⟨-, -, rfl⟩ := release_eq_some h
    exact hs
  | checkHealth => obtain ⟨-, ⟨-, rfl⟩ | ⟨-, rfl⟩⟩ := checkHealth_eq_some h <;> exact hs
  | checkShutdown => obtain ⟨-, ⟨-, rfl⟩ | ⟨-, rfl⟩⟩ := checkShutdown_eq_some h <;> exact hs
  | receive =>
    obtain ⟨-, hreceives⟩ := receives_of_receive h
    cases hreceives with
    | event hqueue hreceiver hsender => exact hs
    | startupFailure hqueue => exact hs
    | finished hqueue => exact hs
    | disconnected hqueue hsender => exact hs
  | client message =>
    obtain ⟨-, clientStop, stage, answers, rfl, -⟩ := client_eq_some h
    exact hs
  | storeStop =>
    obtain ⟨-, rfl⟩ := storeStop_eq_some h
    rfl
  | leave =>
    obtain ⟨-, rfl⟩ := leave_eq_some h
    rfl
  | close =>
    obtain ⟨-, -, rfl⟩ := closeSocket_eq_some h
    exact hs
  | shutDown =>
    cases h
    simp [told]

/-! ## Nobody waits forever -/

/-- The steps that neither the client nor the service nor a timeout takes. -/
def Action.unprompted : Action → Bool
  | .client _ | .shutDown | .expire => false
  | .event | .send | .fail => true
  | .start _ | .poll | .complete | .report | .finish | .release => true
  | .checkHealth | .checkShutdown | .receive | .storeStop | .leave | .close => true

/-- Until the session loop has left, the capture task has dropped the queue if it has returned. -/
def Releases (s : Session) : Prop := s.Left ∨ s.task ≠ .returned ∨ s.events.sender = false

/-- Every step keeps that the capture task has dropped the queue if it has returned. -/
theorem releases_of_step {a : Action} (h : s.step a = some s') (hs : s.Releases) : s'.Releases := by
  cases hparty : a.party with
  | worker =>
    cases a with
    | event =>
      cases (passes_of_passEvent h).2 with
      | panicked hupcoming hidle hencode => exact hs
      | failed hupcoming hidle hencode => exact hs
      | encoded hupcoming hidle hencode => exact hs
    | send =>
      cases sends_of_sendNext h with
      | queued hcallback hreceiver hreceiver' hsender hqueue =>
        exact hs.imp_right (Or.imp_right hsender.trans)
      | refused hcallback hevents => exact hs
      | returned hcallback => exact hs
    | fail =>
      obtain ⟨event, hcallback, rfl⟩ := storeUnhealthy_eq_some h
      exact hs
    | start _ | poll | complete | expire | report | finish | release => cases hparty
    | checkHealth | checkShutdown | receive | client _ | storeStop | leave | close | shutDown =>
      cases hparty
  | captureTask =>
    cases a with
    | start started =>
      obtain ⟨-, rfl | rfl⟩ := startCapture_eq_some h
      · exact .inr (.inl (by rintro ⟨⟩))
      · exact .inr (.inl (by rintro ⟨⟩))
    | poll =>
      obtain ⟨-, rfl | rfl⟩ := poll_eq_some h
      · exact .inr (.inl (by rintro ⟨⟩))
      · exact .inr (.inl (by rintro ⟨⟩))
    | complete =>
      obtain ⟨-, -, rfl⟩ := complete_eq_some h
      exact .inr (.inl (by rintro ⟨⟩))
    | expire =>
      rcases expire_eq_some h with ⟨-, rfl⟩ | ⟨-, rfl⟩
      · exact .inr (.inl (by rintro ⟨⟩))
      · exact .inr (.inl (by rintro ⟨⟩))
    | report =>
      obtain ⟨-, ⟨error, -, -, rfl⟩ | rfl⟩ := report_eq_some h
      · exact .inr (.inl (by rintro ⟨⟩))
      · exact .inr (.inl (by rintro ⟨⟩))
    | finish =>
      obtain ⟨-, rfl⟩ := finish_eq_some h
      exact .inr (.inl (by rintro ⟨⟩))
    | release =>
      obtain ⟨-, -, rfl⟩ := release_eq_some h
      exact .inr (.inr rfl)
    | event | send | fail | shutDown => cases hparty
    | checkHealth | checkShutdown | receive | client _ | storeStop | leave | close => cases hparty
  | service =>
    cases a with
    | shutDown =>
      cases h
      exact hs
    | event | send | fail | start _ | poll | complete | expire | report | finish | release =>
      cases hparty
    | checkHealth | checkShutdown | receive | client _ | storeStop | leave | close => cases hparty
  | sessionLoop =>
    -- In the loop the queue is dropped where the task has returned.
    have hreleases {stage : SessionStage} (hstage : s.stage = stage) (hleft : stage.left = false) :
        s.task ≠ .returned ∨ s.events.sender = false := hs.resolve_left (not_left hstage hleft)
    cases a with
    | checkHealth =>
      obtain ⟨hstage, ⟨-, rfl⟩ | ⟨-, rfl⟩⟩ := checkHealth_eq_some h
      · exact .inl rfl
      · exact .inr (hreleases hstage rfl)
    | checkShutdown =>
      obtain ⟨hstage, ⟨-, rfl⟩ | ⟨-, rfl⟩⟩ := checkShutdown_eq_some h
      · exact .inl rfl
      · exact .inr (hreleases hstage rfl)
    | receive =>
      obtain ⟨hstage, hreceives⟩ := receives_of_receive h
      cases hreceives with
      | event hqueue hreceiver hsender =>
        exact .inr ((hreleases hstage rfl).imp_right hsender.trans)
      | startupFailure hqueue => exact .inl rfl
      | finished hqueue => exact .inl rfl
      | disconnected hqueue hsender => exact .inl rfl
    | client message =>
      obtain ⟨hstage, clientStop, stage, answers, rfl, -⟩ := client_eq_some h
      exact .inr (hreleases hstage rfl)
    | storeStop =>
      obtain ⟨hstage, rfl⟩ := storeStop_eq_some h
      exact .inr (hreleases hstage rfl)
    | leave =>
      obtain ⟨-, rfl⟩ := leave_eq_some h
      exact .inl rfl
    | close =>
      obtain ⟨-, -, rfl⟩ := closeSocket_eq_some h
      exact .inl rfl
    | event | send | fail | shutDown => cases hparty
    | start _ | poll | complete | expire | report | finish | release => cases hparty

/-- The worker or the capture task can move until the capture task has returned. -/
theorem exists_step_of_not_returned (h : s.task ≠ .returned) :
    ∃ a, a.unprompted = true ∧ (s.step a).isSome = true := by
  by_cases hstarting : s.task = .starting
  · refine ⟨.start true, rfl, ?_⟩
    show (s.startCapture true).isSome = true
    unfold startCapture
    rw [hstarting]
    rfl
  by_cases hdone : s.workerDone = true
  · -- The worker has returned, so no wait of the capture task blocks.
    cases htask : s.task with
    | starting => exact absurd htask hstarting
    | polling =>
      refine ⟨.poll, rfl, ?_⟩
      show s.poll.isSome = true
      unfold poll
      rw [htask]
      dsimp only
      split_ifs <;> rfl
    | waiting | stopping =>
      refine ⟨.complete, rfl, ?_⟩
      show s.complete.isSome = true
      unfold complete
      rw [hdone, htask]
      rfl
    | reporting =>
      refine ⟨.report, rfl, ?_⟩
      show s.report.isSome = true
      unfold report
      rw [htask]
      dsimp only
      split <;> rfl
    | finishing =>
      refine ⟨.finish, rfl, ?_⟩
      show s.finish.isSome = true
      unfold finish
      rw [htask]
      rfl
    | releasing =>
      refine ⟨.release, rfl, ?_⟩
      show s.release.isSome = true
      unfold release
      rw [hdone, htask]
      rfl
    | returned => exact absurd htask h
  · -- The worker has started, and it never waits.
    cases hcallback : s.callback with
    | sending event messages =>
      refine ⟨.send, rfl, ?_⟩
      show s.sendNext.isSome = true
      unfold sendNext
      rw [hcallback]
      cases messages with
      | nil => rfl
      | cons message messages =>
        dsimp only
        split <;> rfl
    | failing event =>
      refine ⟨.fail, rfl, ?_⟩
      show s.storeUnhealthy.isSome = true
      unfold storeUnhealthy
      rw [hcallback]
      rfl
    | idle =>
      cases hupcoming : s.upcoming with
      | nil => exact absurd (workerDone_iff.mpr ⟨hupcoming, hcallback⟩) hdone
      | cons event upcoming =>
        refine ⟨.event, rfl, ?_⟩
        show s.passEvent.isSome = true
        have hpassed : s.passEvent ≠ none := by
          unfold passEvent
          rw [hcallback, hupcoming]
          split
          next htask => exact absurd htask hstarting
          next => split <;> rintro ⟨⟩
          next hpass => exact fun _ => hpass _ _ rfl rfl
        exact Option.isSome_iff_ne_none.mpr hpassed

/-- Unless the socket is closed, some step of the session's own can be taken. -/
theorem exists_unprompted (hs : s.Releases) (hopen : s.stage ≠ .closed) :
    ∃ a s', s.step a = some s' ∧ a.unprompted = true := by
  have hsome : ∃ a : Action, a.unprompted = true ∧ (s.step a).isSome = true := by
    by_cases hreturned : s.task ≠ .returned
    · exact exists_step_of_not_returned hreturned
    rw [not_not] at hreturned
    cases hstage : s.stage with
    | checkingHealth =>
      refine ⟨.checkHealth, rfl, ?_⟩
      show s.checkHealth.isSome = true
      unfold checkHealth
      rw [hstage]
      dsimp only
      split_ifs <;> rfl
    | checkingShutdown =>
      refine ⟨.checkShutdown, rfl, ?_⟩
      show s.checkShutdown.isSome = true
      unfold checkShutdown
      rw [hstage]
      dsimp only
      split_ifs <;> rfl
    | selecting =>
      -- The queue is dropped, so the loop does not wait for it.
      have hsender : s.events.sender = false :=
        (hs.resolve_left (not_left hstage rfl)).resolve_left (absurd hreturned)
      refine ⟨.receive, rfl, ?_⟩
      show s.receive.isSome = true
      unfold receive
      rw [hstage]
      dsimp only
      split
      next hrecv =>
        have hthere := (Channel.recv_eq_none.mp hrecv).2
        cases hsender.symm.trans hthere
      all_goals rfl
    | stopping =>
      refine ⟨.storeStop, rfl, ?_⟩
      show s.storeStop.isSome = true
      unfold storeStop
      rw [hstage]
      rfl
    | leaving =>
      refine ⟨.leave, rfl, ?_⟩
      show s.leave.isSome = true
      unfold leave
      rw [hstage]
      rfl
    | awaiting =>
      refine ⟨.close, rfl, ?_⟩
      show s.closeSocket.isSome = true
      unfold closeSocket
      rw [if_pos ⟨hstage, hreturned⟩]
      rfl
    | closed => exact absurd hstage hopen
  obtain ⟨a, ha, hstep⟩ := hsome
  obtain ⟨s', hs'⟩ := Option.isSome_iff_exists.mp hstep
  exact ⟨a, s', hs', ha⟩

/-! ## Runs -/

variable {shuttingDown : Bool} {upcoming : List StreamEvent} {completion : CaptureOwnerCompletion}
  {actions later : List Action}

/-- In every run the capture task has dropped the queue if it has returned. -/
theorem releases_of_run
    (h : sessionSystem.Run (new shuttingDown upcoming completion) actions s) : s.Releases :=
  TransitionSystem.Run.invariant (S := sessionSystem) (I := Releases)
    (.inr (.inl (by rintro ⟨⟩))) (fun _ _ _ hs hstep => releases_of_step hstep hs) h

/-- A session whose capture task drops the queue before it returns can close by itself, with no more
steps than there is work. -/
theorem Releases.exists_closing (h : s.Releases) :
    ∃ later s', sessionSystem.Run s later s' ∧ later.length ≤ s.work ∧
      (∀ a ∈ later, a.unprompted = true) ∧ s'.stage = .closed := by
  apply TransitionSystem.exists_run_of_lt (S := sessionSystem) (I := Releases) _ h
  intro s hs
  by_cases hclosed : s.stage = .closed
  · exact .inl hclosed
  obtain ⟨a, s', hstep, ha⟩ := exists_unprompted hs hclosed
  refine .inr ⟨a, s', hstep, ha, releases_of_step hstep hs, ?_⟩
  have hlt := work_step hstep
  have hcredit : a.credit = 0 := by
    cases a with
    | client _ | shutDown | expire => cases ha
    | event | send | fail | start _ | poll | complete | report | finish | release => rfl
    | checkHealth | checkShutdown | receive | storeStop | leave | close => rfl
  simpa [hcredit] using hlt

/-- From every state of every run, a session can close by itself: neither the client nor the service
nor a timeout is needed, and it takes no more steps than there is work. Each write of the socket is
assumed to return. -/
theorem can_close (h : sessionSystem.Run (new shuttingDown upcoming completion) actions s) :
    ∃ later s', sessionSystem.Run s later s' ∧ later.length ≤ s.work ∧
      (∀ a ∈ later, a.unprompted = true) ∧ s'.stage = .closed :=
  (releases_of_run h).exists_closing

/-- A session that has written one window can close. -/
theorem can_close_first_window :
    ∃ later s', sessionSystem.Run firstWindowSession later s' ∧
      later.length ≤ firstWindowSession.work ∧ (∀ a ∈ later, a.unprompted = true) ∧
      s'.stage = .closed := by
  have hrun : sessionSystem.Run burstSession firstWindowActions firstWindowSession :=
    TransitionSystem.run_of_isSome (by decide +kernel)
  exact can_close hrun

/-- A message of the client. -/
def Action.isClient : Action → Bool
  | .client _ => true
  | .event | .send | .fail => false
  | .start _ | .poll | .complete | .expire | .report | .finish | .release => false
  | .checkHealth | .checkShutdown | .receive | .storeStop | .leave | .close => false
  | .shutDown => false

/-- What the client and the service give back. -/
theorem credit_eq (later : List Action) :
    (later.map fun a => if a = .expire then 0 else a.credit).sum
      = 4 * later.countP Action.isClient + later.count .shutDown := by
  induction later with
  | nil => rfl
  | cons a later ih =>
    have ha : (if a = .expire then 0 else a.credit)
        = 4 * (if a.isClient then 1 else 0) + if a = .shutDown then 1 else 0 := by
      cases a <;> rfl
    rw [List.map_cons, List.sum_cons, ih, List.countP_cons, List.count_cons, ha]
    simp only [beq_iff_eq]
    omega

/-- A session that was told to stop ends, in every interleaving: the steps of it are bounded by its
work and what the client and the service add to it, and it can only stand still once the socket is
closed. Each write of the socket is assumed to return. -/
theorem closes_after_stop
    (h : sessionSystem.Run (new shuttingDown upcoming completion) actions s)
    (htold : s.told = true) (hlater : sessionSystem.Run s later s') :
    later.length + s'.work
        ≤ s.work + (4 * later.countP Action.isClient + later.count .shutDown) ∧
      (s'.stage ≠ .closed → ∃ a s'', s'.step a = some s'' ∧ a.unprompted = true) := by
  constructor
  · rw [← credit_eq]
    apply TransitionSystem.Run.length_add_le_credit (S := sessionSystem)
      (I := fun s => s.told = true) _ htold hlater
    intro t a t' ht hstep
    have hlt := work_step hstep
    simp only [ht, true_and] at hlt
    exact ⟨told_of_step hstep ht, hlt⟩
  · intro hopen
    exact exists_unprompted (releases_of_run (TransitionSystem.run_append.mpr ⟨s, h, hlater⟩)) hopen

/-- The client asks for a stop after the first window. -/
def toldActions : List Action :=
  firstWindowActions ++ [.checkHealth, .checkShutdown, .client .stopRequest, .storeStop]

/-- The session that was told to stop. -/
def toldSession : Session :=
  (toldActions.foldlM (TransitionSystem.guarded step fun _ _ => True) stoppedSession).getD
    stoppedSession

/-- The capture task sees that, and the last event is passed on. -/
def endingActions : List Action := [.poll, .send, .event]

/-- The session with its last event. -/
def endingSession : Session :=
  (endingActions.foldlM (TransitionSystem.guarded step fun _ _ => True) toldSession).getD
    toldSession

/-- A session that the client stops after one window, three steps of the capture later. -/
theorem closes_after_stop_told :
    endingActions.length + endingSession.work
        ≤ toldSession.work
          + (4 * endingActions.countP Action.isClient + endingActions.count .shutDown) ∧
      (endingSession.stage ≠ .closed →
        ∃ a s'', endingSession.step a = some s'' ∧ a.unprompted = true) := by
  have hrun : sessionSystem.Run stoppedSession toldActions toldSession :=
    TransitionSystem.run_of_isSome (by decide +kernel)
  have hlater : sessionSystem.Run toldSession endingActions endingSession :=
    TransitionSystem.run_of_isSome (by decide +kernel)
  exact closes_after_stop hrun (by decide +kernel) hlater

end Session

end ResonanceSignal
