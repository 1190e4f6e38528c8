import ResonanceSignal.Agent.SessionGrammar
import ResonanceSignal.Agent.SessionSequences

/-!
# Sessions follow their grammar

The events of a stream pass the queue in order, so all is well where the session loop leaves after
the stop of the stream, or before its start. It may leave between the two. The flag of an unhealthy
session and that of the shutdown are looked at before the queue, and what is queued is dropped
(`error_without_stop`). The capture task says that it has finished, and drops its end of the queue,
also where no stop was queued: the supervisor's bounded stop has expired, the worker has panicked,
or `process_capture` has failed on a started stream.

`Orderly` excludes these steps, and in a run without them every session follows the grammar
(`conforms_of_run`). Its invariant tells the sessions that pass a stream on (`Streaming`) from those
in which what the loop does is settled, whatever the worker is still to do (`Settled`).
-/

namespace ResonanceSignal

namespace Session

variable {s s' : Session}

/-! ## What a session shows -/

/-- The messages of events on the wire. -/
def onWire (events : List EncodedEvent) : List SocketMessage :=
  events.map EncodedEvent.socketMessage

/-- The messages of the events in the queue. -/
def queuedMessages (queue : List SessionMessage) : List SocketMessage :=
  onWire (queue.filterMap SessionMessage.event?)

/-- A session follows the grammar: its messages before the close are grammatical, and until then
they are the first part of messages that are. -/
def Conforms (s : Session) : Prop :=
  if s.stage = .closed then ∃ messages, s.written = messages ++ [.close] ∧ Grammatical messages
  else ∃ later, Grammatical (s.written ++ later)

/-- The steps in which no stream is cut off, and the client sends stop requests alone. -/
def Orderly (s : Session) : Action → Prop
  /- The session becomes unhealthy after the loop alone, or where the loop is about to leave. -/
  | .fail => s.Left ∨ (s.stage = .checkingShutdown ∧ s.shuttingDown = true ∧ s.written = [])
  /- No stream is open on the socket when the loop sees the shutdown. -/
  | .checkShutdown => s.shuttingDown = false ∨ ¬LeavesOpen s.written
  /- Nor when the capture task says that it has finished, if it can say so. -/
  | .finish => s.Left ∨ s.events.queue.length = eventQueueCapacity ∨
      ¬LeavesOpen (s.written ++ queuedMessages s.events.queue)
  /- Nor when it returns, if it could not. -/
  | .release => s.Left ∨ s.events.queue.any (fun m => m.event?.isNone) = true ∨
      ¬LeavesOpen (s.written ++ queuedMessages s.events.queue)
  | .client message => message = .stopRequest
  | _ => True

instance (s : Session) : (a : Action) → Decidable (s.Orderly a)
  | .fail => inferInstanceAs (Decidable (_ ∨ _))
  | .checkShutdown => inferInstanceAs (Decidable (_ ∨ _))
  | .finish => inferInstanceAs (Decidable (_ ∨ _))
  | .release => inferInstanceAs (Decidable (_ ∨ _))
  | .client message => inferInstanceAs (Decidable (message = _))
  | .event | .send | .start _ | .poll | .complete | .expire | .report | .checkHealth | .receive
  | .storeStop | .leave | .close | .shutDown => inferInstanceAs (Decidable True)

/-! ## The invariant -/

/-- The rest of a stream that the callback is still to queue. -/
inductive Ready (s : Session) (phase : StreamPhase) : Prop
  | idle (hcallback : s.callback = .idle) (hupcoming : phase.Follows s.upcoming)
      (hstarted : s.observation.started = true ∨ phase = .fresh)
  | sending {event : StreamEvent} {messages : List EncodedEvent} {next : StreamPhase}
      (hcallback : s.callback = .sending event messages)
      (hmessages : phase.run (onWire messages) = some next) (hupcoming : next.Follows s.upcoming)
      (hstarted : s.observation.started = true ∨ ∃ descriptor, event = .started descriptor)
  | failing {event : StreamEvent} (hcallback : s.callback = .failing event)

/-- The session loop passes a stream on, and all of its queue belongs to the stream. -/
structure Streaming (s : Session) (events : List EncodedEvent) (phase : StreamPhase) : Prop where
  stays : ¬s.Left
  healthy : s.unhealthy = false
  queue : s.events.queue = events.map .event
  run : StreamPhase.fresh.run (s.written ++ onWire events) = some phase
  ready : s.Ready phase
  /-- Before the start nothing was passed on. -/
  starting : s.task = .starting → s.callback = .idle ∧ s.observation.started = false
  /-- The owner completes once its worker has returned. -/
  completed : s.ownerCompletion.isSome = true → s.workerDone = true
  /-- The capture task returns once the worker has, and leaves no stream open. -/
  returned : s.task = .returned → s.workerDone = true ∧ phase.isOpen = false
  sender : s.events.sender = false → s.task = .returned

/-- What the session loop does is settled, whatever the worker is still to do. -/
inductive Settled (s : Session) : Prop
  /-- A failure of the start comes first. -/
  | startupFailure {kind : ErrorKind} {retry : RetryHint} {rest : List SessionMessage}
      (hstays : ¬s.Left) (hhealthy : s.unhealthy = false)
      (hqueue : s.events.queue = .startupFailure kind retry :: rest) (hwritten : s.written = [])
  /-- The end of the queue follows what leaves no stream open. -/
  | finished {events : List EncodedEvent} {rest : List SessionMessage} {phase : StreamPhase}
      (hstays : ¬s.Left) (hhealthy : s.unhealthy = false)
      (hqueue : s.events.queue = events.map .event ++ .finished :: rest)
      (hphase : StreamPhase.fresh.run (s.written ++ onWire events) = some phase)
      (hclosed : phase.isOpen = false)
  /-- The loop is about to leave for the shutdown. -/
  | shuttingDown (hstage : s.stage = .checkingShutdown) (hunhealthy : s.unhealthy = true)
      (hshuttingDown : s.shuttingDown = true) (hwritten : s.written = [])
  /-- The loop has left. -/
  | left (hstage : s.stage = .leaving ∨ s.stage = .awaiting) (hwritten : Grammatical s.written)
  | closed {messages : List SocketMessage} (hstage : s.stage = .closed)
      (hwritten : s.written = messages ++ [.close]) (hgrammatical : Grammatical messages)

/-- A session is lawful where it is settled, or passes a stream on. -/
def Lawful (s : Session) : Prop := s.Settled ∨ ∃ events phase, s.Streaming events phase

/-- A session that has not closed has not written its close. -/
theorem conforms_of_not_closed (hstage : s.stage ≠ .closed)
    (h : ∃ later, Grammatical (s.written ++ later)) : s.Conforms := by
  unfold Conforms
  rw [if_neg hstage]
  exact h

/-- The session loop closes the socket after it has left. -/
theorem not_closed_of_not_left (h : ¬s.Left) : s.stage ≠ .closed := by
  intro hstage
  refine h ?_
  unfold Left
  rw [hstage]
  rfl

/-- The first part of a stream's messages can go on to be grammatical. -/
theorem exists_grammatical_of_run {events : List EncodedEvent} {phase : StreamPhase}
    (h : StreamPhase.fresh.run (s.written ++ onWire events) = some phase) :
    ∃ later, Grammatical (s.written ++ later) := by
  obtain ⟨between, hwritten, -⟩ := StreamPhase.run_append_eq_some.mp h
  exact StreamPhase.exists_grammatical hwritten

/-- A lawful session follows the grammar. -/
theorem Lawful.conforms (h : s.Lawful) : s.Conforms := by
  have hnil : Grammatical ([] ++ []) := .inl rfl
  rcases h with hsettled | ⟨events, phase, hstreaming⟩
  · cases hsettled with
    | startupFailure hstays hhealthy hqueue hwritten =>
      refine conforms_of_not_closed (not_closed_of_not_left hstays) ⟨[], ?_⟩
      rw [hwritten]
      exact hnil
    | finished hstays hhealthy hqueue hphase hclosed =>
      exact conforms_of_not_closed (not_closed_of_not_left hstays) (exists_grammatical_of_run hphase)
    | shuttingDown hstage hunhealthy hshuttingDown hwritten =>
      refine conforms_of_not_closed (by rw [hstage]; decide) ⟨[], ?_⟩
      rw [hwritten]
      exact hnil
    | left hstage hwritten =>
      refine conforms_of_not_closed ?_ ⟨[], ?_⟩
      · rcases hstage with hstage | hstage
        · rw [hstage]
          decide
        · rw [hstage]
          decide
      · rw [List.append_nil]
        exact hwritten
    | closed hstage hwritten hgrammatical =>
      unfold Conforms
      rw [if_pos hstage]
      exact ⟨_, hwritten, hgrammatical⟩
  · exact conforms_of_not_closed (not_closed_of_not_left hstreaming.stays)
      (exists_grammatical_of_run hstreaming.run)

/-! ## Settled sessions -/

/-- What is settled stays so while messages are queued behind. -/
theorem Settled.of_behind (h : s.Settled) (hunhealthy : s'.unhealthy = s.unhealthy)
    (hshuttingDown : s.shuttingDown = true → s'.shuttingDown = true) (hstage : s'.stage = s.stage)
    (hwritten : s'.written = s.written) {later : List SessionMessage}
    (hqueue : s'.events.queue = s.events.queue ++ later) : s'.Settled := by
  have hleft : s'.Left ↔ s.Left := by
    unfold Left
    rw [hstage]
  cases h with
  | startupFailure hstays hhealthy hfirst hnone =>
    rw [hfirst] at hqueue
    exact .startupFailure (fun h => hstays (hleft.mp h)) (hunhealthy.trans hhealthy) hqueue
      (hwritten.trans hnone)
  | finished hstays hhealthy hend hphase hclosed =>
    rw [hend, List.append_assoc] at hqueue
    rw [← hwritten] at hphase
    exact .finished (fun h => hstays (hleft.mp h)) (hunhealthy.trans hhealthy) hqueue hphase hclosed
  | shuttingDown hchecking hflag hshutdown hnone =>
    exact .shuttingDown (hstage.trans hchecking) (hunhealthy.trans hflag) (hshuttingDown hshutdown)
      (hwritten.trans hnone)
  | left hgone hgrammatical =>
    rw [← hstage] at hgone
    rw [← hwritten] at hgrammatical
    exact .left hgone hgrammatical
  | closed hclosed hclose hgrammatical =>
    exact .closed (hstage.trans hclosed) (hwritten.trans hclose) hgrammatical

/-- An unhealthy session is settled where the loop has left, or is about to. -/
theorem settled_storeUnhealthy (h : s.storeUnhealthy = some s') (horderly : s.Orderly .fail)
    (hlawful : s.Lawful) : s'.Settled := by
  obtain ⟨event, hcallback, rfl⟩ := storeUnhealthy_eq_some h
  rcases horderly with hleft | ⟨hstage, hshuttingDown, hwritten⟩
  · rcases hlawful with hsettled | ⟨events, phase, hstreaming⟩
    · cases hsettled with
      | startupFailure hstays hhealthy hqueue hwritten => exact absurd hleft hstays
      | finished hstays hhealthy hqueue hphase hclosed => exact absurd hleft hstays
      | shuttingDown hstage hunhealthy hshuttingDown hwritten =>
        exact absurd hleft (not_left hstage rfl)
      | left hstage hwritten => exact .left hstage hwritten
      | closed hstage hwritten hgrammatical => exact .closed hstage hwritten hgrammatical
    · exact absurd hleft hstreaming.stays
  · exact .shuttingDown hstage rfl hshuttingDown hwritten

/-- What the loop does in a healthy session where it takes nothing from the queue: it leaves for the
shutdown, with no stream open, or it goes on. -/
theorem sessionLoop_cases {a : Action} (ha : a.party = .sessionLoop) (h : s.step a = some s')
    (horderly : s.Orderly a) (hstays : ¬s.Left) (hhealthy : s.unhealthy = false) :
    a = .receive ∨ (s' = { s with stage := .leaving } ∧ ¬LeavesOpen s.written) ∨
      ∃ stop clientStop stage, stage.left = false ∧ s' = { s with stop, clientStop, stage } := by
  have hleft {stage : SessionStage} (hstage : s.stage = stage) : stage.left = false := by
    cases hgone : stage.left with
    | false => rfl
    | true => exact absurd (by rw [Left, hstage, hgone]) hstays
  cases a with
  | checkHealth =>
    obtain ⟨-, ⟨hunhealthy, -⟩ | ⟨-, rfl⟩⟩ := checkHealth_eq_some h
    · cases hhealthy.symm.trans hunhealthy
    · exact .inr (.inr ⟨s.stop, s.clientStop, .checkingShutdown, rfl, rfl⟩)
  | checkShutdown =>
    obtain ⟨-, ⟨hshuttingDown, rfl⟩ | ⟨-, rfl⟩⟩ := checkShutdown_eq_some h
    · refine .inr (.inl ⟨rfl, horderly.resolve_left ?_⟩)
      rw [hshuttingDown]
      decide
    · exact .inr (.inr ⟨s.stop, s.clientStop, .selecting, rfl, rfl⟩)
  | receive => exact .inl rfl
  | client message =>
    obtain rfl : message = .stopRequest := horderly
    obtain rfl := stopRequest_eq_some h
    exact .inr (.inr ⟨s.stop, true, .stopping, rfl, rfl⟩)
  | storeStop =>
    obtain ⟨-, rfl⟩ := storeStop_eq_some h
    exact .inr (.inr ⟨true, s.clientStop, .checkingHealth, rfl, rfl⟩)
  | leave => cases hleft (leave_eq_some h).1
  | close => cases hleft (closeSocket_eq_some h).1
  | event | send | fail | shutDown => contradiction
  | start _ | poll | complete | expire | report | finish | release => contradiction

/-- The stage in which the session loop takes an action. -/
def actsIn : Action → Option SessionStage
  | .checkHealth => some .checkingHealth
  | .checkShutdown => some .checkingShutdown
  | .receive => some .selecting
  | .client _ => some .selecting
  | .storeStop => some .stopping
  | .leave => some .leaving
  | .close => some .awaiting
  | _ => none

/-- The session loop takes its actions in their stages. -/
theorem stage_of_sessionLoop {a : Action} (ha : a.party = .sessionLoop)
    (h : s.step a = some s') : actsIn a = some s.stage := by
  cases a with
  | checkHealth => rw [(checkHealth_eq_some h).1]; rfl
  | checkShutdown => rw [(checkShutdown_eq_some h).1]; rfl
  | receive => rw [(receives_of_receive h).1]; rfl
  | client message => rw [(client_eq_some h).1]; rfl
  | storeStop => rw [(storeStop_eq_some h).1]; rfl
  | leave => rw [(leave_eq_some h).1]; rfl
  | close => rw [(closeSocket_eq_some h).1]; rfl
  | event | send | fail | shutDown => contradiction
  | start _ | poll | complete | expire | report | finish | release => contradiction

/-- The session loop goes on to what is settled. -/
theorem Settled.sessionLoop {a : Action} (ha : a.party = .sessionLoop) (h : s.step a = some s')
    (horderly : s.Orderly a) (hsettled : s.Settled) : s'.Settled := by
  cases hsettled with
  | @startupFailure kind retry rest hstays hhealthy hqueue hwritten =>
    rcases sessionLoop_cases ha h horderly hstays hhealthy with
      rfl | ⟨rfl, -⟩ | ⟨stop, clientStop, stage, hstage, rfl⟩
    · -- Only the failure is queued, and it is written as the session leaves.
      obtain ⟨-, hreceives⟩ := receives_of_receive h
      cases hreceives with
      | event hfirst hreceiver hsender => cases hqueue.symm.trans hfirst
      | @startupFailure kind retry events hfirst =>
        refine .left (.inl rfl) (.inr (.inl ⟨kind, retry, ?_⟩))
        show s.written ++ [_] = _
        rw [hwritten]
        rfl
      | finished hfirst => cases hqueue.symm.trans hfirst
      | disconnected hempty hsender => cases hqueue.symm.trans hempty
    · exact .left (.inl rfl) (.inl hwritten)
    · exact .startupFailure (not_left rfl hstage) hhealthy hqueue hwritten
  | @finished events rest phase hstays hhealthy hqueue hphase hclosed =>
    rcases sessionLoop_cases ha h horderly hstays hhealthy with
      rfl | ⟨rfl, hopen⟩ | ⟨stop, clientStop, stage, hstage, rfl⟩
    · obtain ⟨-, hreceives⟩ := receives_of_receive h
      cases events with
      | nil =>
        -- All events are written, and the end of the capture is next.
        cases hreceives with
        | event hfirst hreceiver hsender => cases hqueue.symm.trans hfirst
        | startupFailure hfirst => cases hqueue.symm.trans hfirst
        | finished hfirst =>
          rw [onWire, List.map_nil, List.append_nil] at hphase
          exact .left (.inl rfl) (StreamPhase.grammatical_of_run hphase hclosed)
        | disconnected hempty hsender => cases hqueue.symm.trans hempty
      | cons first events =>
        -- The next event moves from the queue to what is written.
        cases hreceives with
        | @event event events' hfirst hreceiver hsender =>
          rw [hqueue] at hfirst
          obtain ⟨hevent, hrest⟩ := List.cons.inj hfirst
          obtain rfl := SessionMessage.event.inj hevent
          refine .finished (not_left rfl rfl) hhealthy hrest.symm ?_ hclosed
          show StreamPhase.fresh.run (s.written ++ [first.socketMessage] ++ onWire events) = _
          rw [List.append_assoc]
          exact hphase
        | startupFailure hfirst => cases hqueue.symm.trans hfirst
        | finished hfirst => cases hqueue.symm.trans hfirst
        | disconnected hempty hsender => cases hqueue.symm.trans hempty
    · obtain ⟨between, hwritten, -⟩ := StreamPhase.run_append_eq_some.mp hphase
      exact .left (.inl rfl) (StreamPhase.grammatical_of_run hwritten
        (StreamPhase.isOpen_of_not_leavesOpen hwritten hopen))
    · exact .finished (not_left rfl hstage) hhealthy hqueue hphase hclosed
  | shuttingDown hstage hunhealthy hshuttingDown hwritten =>
    have hacts := stage_of_sessionLoop ha h
    rw [hstage] at hacts
    cases a with
    | checkShutdown =>
      -- The service shuts down, so the loop leaves.
      obtain ⟨-, ⟨-, rfl⟩ | ⟨hrunning, -⟩⟩ := checkShutdown_eq_some h
      · exact .left (.inl rfl) (.inl hwritten)
      · cases hshuttingDown.symm.trans hrunning
    | _ => cases hacts
  | left hstage hwritten =>
    have hacts := stage_of_sessionLoop ha h
    -- Out of the loop it waits for the capture task, and closes the socket.
    rcases hstage with hstage | hstage <;> rw [hstage] at hacts <;> cases a with
    | leave =>
      obtain ⟨-, rfl⟩ := leave_eq_some h
      exact .left (.inr rfl) hwritten
    | close =>
      obtain ⟨-, -, rfl⟩ := closeSocket_eq_some h
      exact .closed rfl rfl hwritten
    | _ => cases hacts
  | closed hstage hwritten hgrammatical =>
    -- A closed session takes no action.
    have hacts := stage_of_sessionLoop ha h
    rw [hstage] at hacts
    cases a <;> cases hacts

/-! ## Streaming sessions -/

variable {events : List EncodedEvent} {phase : StreamPhase}

/-- The rest of a stream is the callback's and the worker's. -/
theorem Ready.congr (h : s.Ready phase) (hcallback : s'.callback = s.callback)
    (hupcoming : s'.upcoming = s.upcoming) (hobservation : s'.observation = s.observation) :
    s'.Ready phase := by
  cases h with
  | idle hidle hfollows hstarted =>
    rw [← hcallback] at hidle
    rw [← hupcoming] at hfollows
    rw [← hobservation] at hstarted
    exact .idle hidle hfollows hstarted
  | sending hsending hmessages hfollows hstarted =>
    rw [← hcallback] at hsending
    rw [← hupcoming] at hfollows
    rw [← hobservation] at hstarted
    exact .sending hsending hmessages hfollows hstarted
  | failing hfailing =>
    rw [← hcallback] at hfailing
    exact .failing hfailing

/-- A stream that was started stays so. -/
theorem started_observe (observation : CaptureTerminalObservation) (event : StreamEvent)
    (h : observation.started = true ∨ ∃ descriptor, event = .started descriptor) :
    (observation.observe event).started = true := by
  rcases h with hstarted | ⟨descriptor, rfl⟩
  · cases event <;> first | rfl | exact hstarted
  · rfl

/-- The messages of a queue of events. -/
theorem queuedMessages_map_event (events : List EncodedEvent) :
    queuedMessages (events.map .event) = onWire events := by
  have hsome : SessionMessage.event? ∘ SessionMessage.event = some := rfl
  unfold queuedMessages
  rw [List.filterMap_map, hsome, List.filterMap_some]

/-- Events with one more are on the wire with one more message. -/
theorem onWire_append (events : List EncodedEvent) (event : EncodedEvent) :
    onWire (events ++ [event]) = onWire events ++ [event.socketMessage] := List.map_append

namespace Streaming

/-- Before the start nothing is written or queued. -/
theorem nothing (h : s.Streaming events .fresh) : s.written = [] ∧ events = [] := by
  obtain ⟨hwritten, hwire⟩ := List.append_eq_nil_iff.mp (StreamPhase.run_eq_fresh h.run).1
  exact ⟨hwritten, List.map_eq_nil_iff.mp hwire⟩

/-- A session that leaves no stream open is in no open phase. -/
theorem isOpen_eq_false (h : s.Streaming events phase)
    (hopen : ¬LeavesOpen (s.written ++ queuedMessages s.events.queue)) : phase.isOpen = false := by
  rw [h.queue, queuedMessages_map_event] at hopen
  exact StreamPhase.isOpen_of_not_leavesOpen h.run hopen

/-- The worker has not returned while it has an event, or the callback has a message. -/
theorem not_done (hbusy : ¬(s.upcoming = [] ∧ s.callback = .idle)) : s.workerDone ≠ true :=
  fun hdone => hbusy (workerDone_iff.mp hdone)

/-- The worker passes the next event of the stream. -/
theorem passes (h : s.Streaming events phase) (hstarting : s.task ≠ .starting)
    (hpasses : Passes s s') : s'.Streaming events phase := by
  have hnot {event : StreamEvent} {upcoming : List StreamEvent}
      (hupcoming : s.upcoming = event :: upcoming) : s.workerDone ≠ true := by
    refine not_done fun hdone => ?_
    rw [hupcoming] at hdone
    cases hdone.1
  cases hpasses with
  | panicked hupcoming hidle hencode =>
    refine { h with
      ready := ?_
      starting := fun htask => absurd htask hstarting
      completed := fun hsome => absurd (h.completed hsome) (hnot hupcoming)
      returned := fun htask => absurd (h.returned htask).1 (hnot hupcoming) }
    cases h.ready with
    | idle hcallback hfollows hstarted => exact .idle hidle rfl hstarted
    | sending hcallback hmessages hfollows hstarted => cases hidle.symm.trans hcallback
    | failing hcallback => cases hidle.symm.trans hcallback
  | failed hupcoming hidle hencode =>
    exact { h with
      ready := .failing rfl
      starting := fun htask => absurd htask hstarting
      completed := fun hsome => absurd (h.completed hsome) (hnot hupcoming)
      returned := fun htask => absurd (h.returned htask).1 (hnot hupcoming) }
  | @encoded event upcoming messages encoder hupcoming hidle hencode =>
    refine { h with
      ready := ?_
      starting := fun htask => absurd htask hstarting
      completed := fun hsome => absurd (h.completed hsome) (hnot hupcoming)
      returned := fun htask => absurd (h.returned htask).1 (hnot hupcoming) }
    cases h.ready with
    | idle hcallback hfollows hstarted =>
      rw [hupcoming] at hfollows
      obtain ⟨next, hnext, hrest⟩ := StreamPhase.follows_cons.mp hfollows
      have hrelabel : phase.nextEvent (relabel s.clientStop event) = some next := by
        rw [StreamPhase.nextEvent_relabel]
        exact hnext
      refine .sending rfl (StreamPhase.run_of_encode hencode hrelabel) hrest ?_
      rcases hstarted with hstarted | rfl
      · exact .inl hstarted
      · -- The first event is the start.
        cases event with
        | started descriptor => exact .inr ⟨descriptor, rfl⟩
        | data packet => cases hnext
        | error error => cases hnext
        | ended streamId reason => cases hnext
    | sending hcallback hmessages hfollows hstarted => cases hidle.symm.trans hcallback
    | failing hcallback => cases hidle.symm.trans hcallback

/-- The callback queues the next message of the stream. -/
theorem sends (h : s.Streaming events phase) (hsends : Sends s s') :
    ∃ events phase, s'.Streaming events phase := by
  have hnot {event : StreamEvent} {messages : List EncodedEvent}
      (hcallback : s.callback = .sending event messages) : s.workerDone ≠ true := by
    refine not_done fun hdone => ?_
    rw [hcallback] at hdone
    cases hdone.2
  have hstarting {event : StreamEvent} {messages : List EncodedEvent}
      (hcallback : s.callback = .sending event messages) : s.task ≠ .starting := by
    intro htask
    cases hcallback.symm.trans (h.starting htask).1
  cases hsends with
  | @queued event message messages channel hcallback hreceiver hreceiver' hsender hqueue =>
    cases h.ready with
    | idle hidle hfollows hstarted => cases hcallback.symm.trans hidle
    | failing hfailing => cases hcallback.symm.trans hfailing
    | sending hsending hmessages hfollows hstarted =>
      obtain ⟨rfl, rfl⟩ := CallbackStage.sending.inj (hcallback.symm.trans hsending)
      obtain ⟨between, hfirst, hrest⟩ := StreamPhase.run_cons_eq_some.mp hmessages
      refine ⟨events ++ [message], between, ?_⟩
      exact {
        stays := h.stays
        healthy := h.healthy
        queue := by
          show channel.queue = _
          rw [hqueue, h.queue, List.map_append]
          rfl
        run := by
          show StreamPhase.fresh.run (s.written ++ onWire (events ++ [message])) = some between
          rw [onWire_append, ← List.append_assoc]
          refine StreamPhase.run_append_eq_some.mpr ⟨phase, h.run, ?_⟩
          exact StreamPhase.run_cons_eq_some.mpr ⟨between, hfirst, rfl⟩
        ready := .sending rfl hrest hfollows hstarted
        starting := fun htask => absurd htask (hstarting hcallback)
        completed := fun hsome => absurd (h.completed hsome) (hnot hcallback)
        returned := fun htask => absurd (h.returned htask).1 (hnot hcallback)
        sender := fun hgone => h.sender (hsender.symm.trans hgone) }
  | refused hcallback hevents =>
    exact ⟨events, phase, { h with
      ready := .failing rfl
      starting := fun htask => absurd htask (hstarting hcallback)
      completed := fun hsome => absurd (h.completed hsome) (hnot hcallback)
      returned := fun htask => absurd (h.returned htask).1 (hnot hcallback) }⟩
  | @returned event hcallback =>
    cases h.ready with
    | idle hidle hfollows hstarted => cases hcallback.symm.trans hidle
    | failing hfailing => cases hcallback.symm.trans hfailing
    | sending hsending hmessages hfollows hstarted =>
      obtain ⟨rfl, rfl⟩ := CallbackStage.sending.inj (hcallback.symm.trans hsending)
      obtain rfl := Option.some.inj hmessages
      exact ⟨events, phase, { h with
        ready := .idle rfl hfollows (.inl (started_observe _ _ hstarted))
        starting := fun htask => absurd htask (hstarting hcallback)
        completed := fun hsome => absurd (h.completed hsome) (hnot hcallback)
        returned := fun htask => absurd (h.returned htask).1 (hnot hcallback) }⟩

/-- A step of the capture task that changes its own variables alone. -/
theorem capture_task (h : s.Streaming events phase) {task : CaptureTaskStage}
    {ownerCompletion : Option CaptureOwnerCompletion} (htask : s.task ≠ .returned)
    (hstarting : task ≠ .starting) (hreturned : task ≠ .returned)
    (hcompleted : ownerCompletion.isSome = true → s.workerDone = true) :
    ({ s with task, ownerCompletion } : Session).Streaming events phase :=
  { h with
    ready := h.ready.congr rfl rfl rfl
    starting := fun heq => absurd heq hstarting
    completed := hcompleted
    returned := fun heq => absurd heq hreturned
    sender := fun hgone => absurd (h.sender hgone) htask }

/-- The capture task goes on, and the stream with it. -/
theorem task_moves (h : s.Streaming events phase) {task : CaptureTaskStage}
    (htask : s.task ≠ .returned) (hstarting : task ≠ .starting) (hreturned : task ≠ .returned) :
    ({ s with task } : Session).Lawful :=
  .inr ⟨events, phase, h.capture_task htask hstarting hreturned h.completed⟩

/-- A failure of the start is queued where nothing of a stream was. -/
theorem settled_offer (h : s.Streaming events phase) (hlistens : s.Listens)
    (hidle : s.callback = .idle) (hstarted : s.observation.started = false) (kind : ErrorKind)
    (retry : RetryHint) {upcoming : List StreamEvent} {task : CaptureTaskStage} :
    ({ s.offer (.startupFailure kind retry) with upcoming, task } : Session).Settled := by
  have hfresh : phase = .fresh := by
    cases h.ready with
    | idle hcallback hfollows hbefore =>
      rcases hbefore with htrue | hfresh
      · cases hstarted.symm.trans htrue
      · exact hfresh
    | sending hcallback hmessages hfollows hbefore => cases hidle.symm.trans hcallback
    | failing hcallback => cases hidle.symm.trans hcallback
  subst hfresh
  obtain ⟨hwritten, rfl⟩ := h.nothing
  have hempty : s.events.queue = [] := h.queue
  obtain ⟨channel, heq, -, hoffered⟩ := offer_cases s (.startupFailure kind retry)
  rw [heq]
  rcases hoffered with ⟨-, hqueue⟩ | ⟨-, hgone | hfull⟩
  · rw [hempty] at hqueue
    exact .startupFailure h.stays h.healthy hqueue hwritten
  · cases (hlistens.resolve_left h.stays).symm.trans hgone
  · rw [hempty] at hfull
    cases hfull

/-- The end of the capture is queued behind a stream that is not open, or the queue is full. -/
theorem finishes (h : s.Streaming events phase) (hlistens : s.Listens)
    (hfinish : s.finish = some s') (horderly : s.Orderly .finish) : s'.Lawful := by
  obtain ⟨htask, rfl⟩ := finish_eq_some hfinish
  have hreceiver := hlistens.resolve_left h.stays
  obtain ⟨channel, heq, -, hoffered⟩ := offer_cases s .finished
  rw [heq]
  rcases hoffered with ⟨-, hqueue⟩ | ⟨rfl, hgone | hfull⟩
  · have hroom : s.events.queue.length ≠ eventQueueCapacity := by
      have hle := channel.length_le
      rw [hqueue, List.length_append, List.length_singleton] at hle
      omega
    have hopen := (horderly.resolve_left h.stays).resolve_left hroom
    rw [h.queue] at hqueue
    exact .inl (.finished h.stays h.healthy hqueue h.run (h.isOpen_eq_false hopen))
  · cases hreceiver.symm.trans hgone
  · refine .inr ⟨events, phase, ?_⟩
    exact h.capture_task (by rw [htask]; decide) (by decide) (by decide) h.completed

/-- The capture task returns where no stream is open. -/
theorem releases (h : s.Streaming events phase) (hrelease : s.release = some s')
    (horderly : s.Orderly .release) : s'.Streaming events phase := by
  obtain ⟨hdone, htask, rfl⟩ := release_eq_some hrelease
  have hevents : ¬s.events.queue.any (fun m => m.event?.isNone) = true := by
    rw [h.queue, List.any_map]
    intro hany
    obtain ⟨event, -, hnone⟩ := List.any_eq_true.mp hany
    cases hnone
  have hopen := (horderly.resolve_left h.stays).resolve_left hevents
  exact { h with
    ready := h.ready.congr rfl rfl rfl
    starting := fun heq => by cases heq
    returned := fun _ => ⟨hdone, h.isOpen_eq_false hopen⟩
    sender := fun _ => rfl }

/-- The session loop passes the stream on. -/
theorem session_loop (h : s.Streaming events phase) {a : Action} (ha : a.party = .sessionLoop)
    (hstep : s.step a = some s') (horderly : s.Orderly a) : s'.Lawful := by
  rcases sessionLoop_cases ha hstep horderly h.stays h.healthy with
    rfl | ⟨rfl, hopen⟩ | ⟨stop, clientStop, stage, hstage, rfl⟩
  · obtain ⟨-, hreceives⟩ := receives_of_receive hstep
    have hqueue := h.queue
    cases hreceives with
    | @event event channel hfirst hreceiver hsender =>
      rw [hfirst] at hqueue
      obtain ⟨next, rest, rfl, hnext, hrest⟩ := List.map_eq_cons_iff.mp hqueue.symm
      obtain rfl := SessionMessage.event.inj hnext
      refine .inr ⟨rest, phase, ?_⟩
      exact { h with
        stays := not_left rfl rfl
        queue := hrest.symm
        run := by
          show StreamPhase.fresh.run (s.written ++ [next.socketMessage] ++ onWire rest) = _
          rw [List.append_assoc]
          exact h.run
        ready := h.ready.congr rfl rfl rfl
        sender := fun hgone => h.sender (hsender.symm.trans hgone) }
    | startupFailure hfirst =>
      rw [hfirst] at hqueue
      obtain ⟨next, rest, -, hnext, -⟩ := List.map_eq_cons_iff.mp hqueue.symm
      cases hnext
    | finished hfirst =>
      rw [hfirst] at hqueue
      obtain ⟨next, rest, -, hnext, -⟩ := List.map_eq_cons_iff.mp hqueue.symm
      cases hnext
    | disconnected hempty hgone =>
      -- Everything is written, and the capture task left no stream open.
      rw [hempty] at hqueue
      obtain rfl := List.map_eq_nil_iff.mp hqueue.symm
      have hrun := h.run
      rw [onWire, List.map_nil, List.append_nil] at hrun
      exact .inl (.left (.inl rfl)
        (StreamPhase.grammatical_of_run hrun (h.returned (h.sender hgone)).2))
  · obtain ⟨between, hwritten, -⟩ := StreamPhase.run_append_eq_some.mp h.run
    exact .inl (.left (.inl rfl) (StreamPhase.grammatical_of_run hwritten
      (StreamPhase.isOpen_of_not_leavesOpen hwritten hopen)))
  · exact .inr ⟨events, phase, { h with
      stays := not_left rfl hstage
      ready := h.ready.congr rfl rfl rfl }⟩

end Streaming

/-! ## Whole sessions -/

/-- What is settled stays so. -/
theorem Settled.step {a : Action} (hsettled : s.Settled) (h : s.step a = some s')
    (horderly : s.Orderly a) : s'.Settled := by
  have hnone : s.events.queue = s.events.queue ++ [] := (List.append_nil _).symm
  cases hparty : a.party with
  | worker =>
    cases a with
    | event =>
      cases (passes_of_passEvent h).2 with
      | panicked hupcoming hidle hencode => exact hsettled.of_behind rfl id rfl rfl hnone
      | failed hupcoming hidle hencode => exact hsettled.of_behind rfl id rfl rfl hnone
      | encoded hupcoming hidle hencode => exact hsettled.of_behind rfl id rfl rfl hnone
    | send =>
      cases sends_of_sendNext h with
      | queued hcallback hreceiver hreceiver' hsender hqueue =>
        exact hsettled.of_behind rfl id rfl rfl hqueue
      | refused hcallback hevents => exact hsettled.of_behind rfl id rfl rfl hnone
      | returned hcallback => exact hsettled.of_behind rfl id rfl rfl hnone
    | fail => exact settled_storeUnhealthy h horderly (.inl hsettled)
    | start _ | poll | complete | expire | report | finish | release => contradiction
    | checkHealth | checkShutdown | receive | client _ | storeStop | leave | close | shutDown =>
      contradiction
  | captureTask =>
    have hbackground := background_of_step (.inl hparty) h
    obtain ⟨later, hqueue, -⟩ := hbackground.queue
    exact hsettled.of_behind hbackground.unhealthy hbackground.shuttingDown hbackground.stage
      hbackground.written hqueue
  | service =>
    have hbackground := background_of_step (.inr hparty) h
    obtain ⟨later, hqueue, -⟩ := hbackground.queue
    exact hsettled.of_behind hbackground.unhealthy hbackground.shuttingDown hbackground.stage
      hbackground.written hqueue
  | sessionLoop => exact hsettled.sessionLoop hparty h horderly

/-- A step of a session that passes a stream on. -/
theorem Streaming.step {a : Action} (hstreaming : s.Streaming events phase) (hlistens : s.Listens)
    (h : s.step a = some s') (horderly : s.Orderly a) : s'.Lawful := by
  cases hparty : a.party with
  | worker =>
    cases a with
    | event =>
      obtain ⟨hstarting, hpasses⟩ := passes_of_passEvent h
      exact .inr ⟨events, phase, hstreaming.passes hstarting hpasses⟩
    | send => exact .inr (hstreaming.sends (sends_of_sendNext h))
    | fail => exact .inl (settled_storeUnhealthy h horderly (.inr ⟨events, phase, hstreaming⟩))
    | start _ | poll | complete | expire | report | finish | release => contradiction
    | checkHealth | checkShutdown | receive | client _ | storeStop | leave | close | shutDown =>
      contradiction
  | captureTask =>
    cases a with
    | start started =>
      obtain ⟨htask, rfl | rfl⟩ := startCapture_eq_some h
      · exact hstreaming.task_moves (by rw [htask]; decide) (by decide) (by decide)
      · obtain ⟨hidle, hstarted⟩ := hstreaming.starting htask
        exact .inl (hstreaming.settled_offer hlistens hidle hstarted .internal .doNotRetry)
    | poll =>
      obtain ⟨htask, rfl | rfl⟩ := poll_eq_some h
      · exact hstreaming.task_moves (by rw [htask]; decide) (by decide) (by decide)
      · exact hstreaming.task_moves (by rw [htask]; decide) (by decide) (by decide)
    | complete =>
      obtain ⟨hdone, htask, rfl⟩ := complete_eq_some h
      refine .inr ⟨events, phase, ?_⟩
      refine hstreaming.capture_task ?_ (by decide) (by decide) fun _ => hdone
      rcases htask with htask | htask
      · rw [htask]
        decide
      · rw [htask]
        decide
    | expire =>
      rcases expire_eq_some h with ⟨htask, rfl⟩ | ⟨htask, rfl⟩
      · exact hstreaming.task_moves (by rw [htask]; decide) (by decide) (by decide)
      · exact hstreaming.task_moves (by rw [htask]; decide) (by decide) (by decide)
    | report =>
      obtain ⟨htask, ⟨error, hstarted, hcompletion, rfl⟩ | rfl⟩ := report_eq_some h
      · have hdone : s.workerDone = true := hstreaming.completed (by rw [hcompletion]; rfl)
        obtain ⟨-, hidle⟩ := workerDone_iff.mp hdone
        exact .inl (hstreaming.settled_offer hlistens hidle hstarted error.kind error.retryHint)
      · exact hstreaming.task_moves (by rw [htask]; decide) (by decide) (by decide)
    | finish => exact hstreaming.finishes hlistens h horderly
    | release => exact .inr ⟨events, phase, hstreaming.releases h horderly⟩
    | event | send | fail | shutDown => contradiction
    | checkHealth | checkShutdown | receive | client _ | storeStop | leave | close =>
      contradiction
  | service =>
    cases a with
    | shutDown =>
      cases h
      exact .inr ⟨events, phase, { hstreaming with ready := hstreaming.ready.congr rfl rfl rfl }⟩
    | event | send | fail => contradiction
    | start _ | poll | complete | expire | report | finish | release => contradiction
    | checkHealth | checkShutdown | receive | client _ | storeStop | leave | close =>
      contradiction
  | sessionLoop => exact hstreaming.session_loop hparty h horderly

variable {processId : UInt32} {streamSequence : UInt64} {deliveries : List (CaptureMessage × Bool)}
  {completion : CaptureOwnerCompletion} {shuttingDown : Bool}

/-- A session begins with all of the capture's events to come. -/
theorem streaming_new (processId : UInt32) (streamSequence : UInt64)
    (deliveries : List (CaptureMessage × Bool)) (completion : CaptureOwnerCompletion)
    (shuttingDown : Bool) :
    (new shuttingDown (processCapture processId streamSequence deliveries).1 completion).Streaming
      [] .fresh where
  stays := not_left rfl rfl
  healthy := rfl
  queue := rfl
  run := rfl
  ready := .idle rfl (StreamPhase.follows_processCapture processId streamSequence deliveries)
    (.inr rfl)
  starting := fun _ => ⟨rfl, rfl⟩
  completed := fun hsome => by cases hsome
  returned := fun htask => by cases htask
  sender := fun hgone => by cases hgone

/-- Every session on the events of a capture follows the grammar, in every run whose steps are all
orderly. -/
theorem conforms_of_run {actions : List Action}
    (h : (sessionSystem.restrict Orderly).Run
      (new shuttingDown (processCapture processId streamSequence deliveries).1 completion)
      actions s) :
    s.Conforms := by
  have hnew := streaming_new processId streamSequence deliveries completion shuttingDown
  have hlawful : s.Lawful ∧ s.Listens := by
    refine TransitionSystem.Run.invariant (I := fun s => s.Lawful ∧ s.Listens)
      ⟨.inr ⟨[], .fresh, hnew⟩, .inr rfl⟩ ?_ h
    intro t a t' ⟨hlawful, hlistens⟩ ⟨hstep, horderly⟩
    refine ⟨?_, listens_of_step hstep hlistens⟩
    rcases hlawful with hsettled | ⟨events, phase, hstreaming⟩
    · exact .inl (hsettled.step hstep horderly)
    · exact hstreaming.step hlistens hstep horderly
  exact hlawful.1.conforms

/-- A capture that ends when it is stopped. -/
def stoppedDeliveries : List (CaptureMessage × Bool) :=
  [(.started ⟨speakers, "Speakers", 480, 1, 128, capture480⟩, true),
    (.packet (AudioFrameBuilder.silentPacket capture480 0 16), true),
    (.ended ⟨.stopRequested, none⟩, true)]

/-- A session with that capture. -/
def stoppedSession : Session :=
  new false (processCapture 1 1 stoppedDeliveries).1
    (workerCompletion (processCapture 1 1 stoppedDeliveries).2)

/-- The window is written, the client asks for a stop, the stop of the stream and the end of the
capture are received, and the socket is closed. -/
def stoppingActions : List Action :=
  firstWindowActions ++
    [.checkHealth, .checkShutdown, .client .stopRequest, .storeStop, .poll, .send, .event, .send,
      .send, .complete, .report, .finish, .checkHealth, .checkShutdown, .receive, .checkHealth,
      .checkShutdown, .receive, .leave, .release, .close]

/-- The session after its close. -/
def closedSession : Session :=
  (stoppingActions.foldlM (TransitionSystem.guarded step Orderly) stoppedSession).getD
    stoppedSession

/-- The messages of a session that the client stops. -/
theorem conforms_of_run_example : closedSession.Conforms := by
  have hsome : (stoppingActions.foldlM (TransitionSystem.guarded step Orderly)
      stoppedSession).isSome := by
    decide +kernel
  have hfold : stoppingActions.foldlM (TransitionSystem.guarded step Orderly) stoppedSession
      = some closedSession := by
    obtain ⟨s, hs⟩ := Option.isSome_iff_exists.mp hsome
    rw [closedSession, hs, Option.getD_some]
  exact conforms_of_run (TransitionSystem.run_of_foldlM hfold)

/-- The queue overflows, the loop writes one window more and then that the consumer is too slow, and
it leaves. The events that remain find no receiver. -/
def overflowingActions : List Action :=
  openingActions ++ (.event :: List.replicate 9 .send) ++ (.event :: List.replicate 9 .send) ++
    [.event, .send, .fail, .receive, .checkHealth, .leave, .event, .send, .fail, .event, .send,
      .fail, .poll, .complete, .report, .finish, .release, .close]

/-- A slow consumer is told an error and no stop of the stream, which had started. -/
theorem error_without_stop : ∃ actions s,
    sessionSystem.Run burstSession actions s ∧ s.stage = .closed ∧
      s.written.map SocketMessage.kind
        = [some .started, some .window, some .error, none] ∧ ¬s.Conforms := by
  have hfold : (overflowingActions.foldlM (TransitionSystem.guarded step fun _ _ => True)
      burstSession).map (fun s => (s.stage, s.written.map SocketMessage.kind))
      = some (.closed, [some .started, some .window, some .error, none]) := by
    decide +kernel
  obtain ⟨s, hs, hend⟩ := Option.map_eq_some_iff.mp hfold
  obtain ⟨hstage, hkinds⟩ := Prod.mk.inj hend
  refine ⟨overflowingActions, s, (TransitionSystem.run_of_foldlM hs).of_restrict, hstage, hkinds, ?_⟩
  intro hconforms
  unfold Conforms at hconforms
  rw [if_pos hstage] at hconforms
  obtain ⟨messages, hwritten, hgrammatical⟩ := hconforms
  have hbefore : messages.map SocketMessage.kind = [some .started, some .window, some .error] := by
    rw [hwritten, List.map_append] at hkinds
    exact (List.append_inj' hkinds rfl).1
  rcases hgrammatical with rfl | ⟨kind, retry, rfl⟩ | ⟨windows, errors, -, hstream⟩
  · cases hbefore
  · cases hbefore
  · have hstopped : some MessageKind.stopped ∈ messages.map SocketMessage.kind := by
      rw [hstream]
      simp
    rw [hbefore] at hstopped
    revert hstopped
    decide

end Session

end ResonanceSignal
