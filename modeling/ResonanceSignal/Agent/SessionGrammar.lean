import ResonanceSignal.Agent.ProcessRuns
import ResonanceSignal.Agent.Session

/-!
# The grammar of a session

A session should write nothing, or a failure of its start, or a stream: its start, its windows, at
most one error, and its stop (`Grammatical`). `StreamPhase` is an automaton for the messages of a
stream, which runs on the events that they are encoded from as well: the events of `process_capture`
come in the order of the grammar (`follows_processCapture`), and each is encoded as messages of its
own kind (`run_of_encode`).
-/

namespace ResonanceSignal

/-! ## The grammar -/

/-- The kinds of messages of a session. -/
inductive MessageKind
  | started
  | window
  | error
  | stopped
deriving DecidableEq

/-- The type of a JSON message. -/
def Json.messageType : Json → Option String
  | .obj fields =>
    match fields.lookup "type" with
    | some (.str name) => some name
    | _ => none
  | _ => none

/-- The kind of a message. -/
def SocketMessage.kind : SocketMessage → Option MessageKind
  | binary _ => some .window
  | text value =>
    match value.messageType with
    | some "stream_started" => some .started
    | some "stream_error" => some .error
    | some "stream_stopped" => some .stopped
    | _ => none
  | pong _ => none
  | close => none

/-- The kinds of the messages of a whole stream. -/
def StreamKinds (kinds : List (Option MessageKind)) : Prop :=
  ∃ windows errors, errors ≤ 1 ∧
    kinds = some .started :: (List.replicate windows (some .window) ++
      (List.replicate errors (some .error) ++ [some .stopped]))

/-- The messages of a whole session before its close: none, a failure of the start, or a stream. -/
def Grammatical (messages : List SocketMessage) : Prop :=
  messages = [] ∨ (∃ kind retry, messages = [.text (startupErrorJson kind retry)]) ∨
    StreamKinds (messages.map SocketMessage.kind)

/-! ## Phases of a stream -/

/-- How far a stream is. -/
inductive StreamPhase
  | fresh
  | streaming
  | failed
  | ended
deriving DecidableEq

namespace StreamPhase

/-- A message that may come next. -/
def next : StreamPhase → Option MessageKind → Option StreamPhase
  | fresh, some .started => some streaming
  | streaming, some .window => some streaming
  | streaming, some .error => some failed
  | streaming, some .stopped => some ended
  | failed, some .stopped => some ended
  | _, _ => none

/-- Messages that may come next. -/
def run (phase : StreamPhase) (messages : List SocketMessage) : Option StreamPhase :=
  messages.foldlM (fun phase message => phase.next message.kind) phase

/-- An event that may come next. -/
def nextEvent : StreamPhase → StreamEvent → Option StreamPhase
  | fresh, .started _ => some streaming
  | streaming, .data _ => some streaming
  | streaming, .error _ => some failed
  | streaming, .ended _ _ => some ended
  | failed, .ended _ _ => some ended
  | _, _ => none

/-- Events that may come next, though they may break off. -/
def Follows (phase : StreamPhase) (events : List StreamEvent) : Prop :=
  (events.foldlM nextEvent phase).isSome = true

/-- A stream is open between its start and its stop. -/
def isOpen : StreamPhase → Bool
  | fresh => false
  | streaming => true
  | failed => true
  | ended => false

variable {phase phase' : StreamPhase} {messages messages' : List SocketMessage}

/-- What may come next, by the phase. -/
inductive Next : StreamPhase → MessageKind → StreamPhase → Prop
  | started : Next fresh .started streaming
  | window : Next streaming .window streaming
  | error : Next streaming .error failed
  | stopped : Next streaming .stopped ended
  | failed : Next failed .stopped ended

/-- What may come next, by the phase. -/
theorem next_eq_some {kind : Option MessageKind} (h : phase.next kind = some phase') :
    ∃ k, kind = some k ∧ Next phase k phase' := by
  unfold next at h
  split at h
  · cases h
    exact ⟨_, rfl, .started⟩
  · cases h
    exact ⟨_, rfl, .window⟩
  · cases h
    exact ⟨_, rfl, .error⟩
  · cases h
    exact ⟨_, rfl, .stopped⟩
  · cases h
    exact ⟨_, rfl, .failed⟩
  · cases h

/-- Messages before others. -/
theorem run_append_eq_some : phase.run (messages ++ messages') = some phase' ↔
    ∃ between, phase.run messages = some between ∧ between.run messages' = some phase' := by
  unfold run
  rw [List.foldlM_append]
  exact Option.bind_eq_some_iff

/-- A message before others. -/
theorem run_cons_eq_some {message : SocketMessage} :
    phase.run (message :: messages) = some phase' ↔
      ∃ between, phase.next message.kind = some between ∧ between.run messages = some phase' := by
  unfold run
  rw [List.foldlM_cons]
  exact Option.bind_eq_some_iff

/-- Nothing follows the stop. -/
theorem run_ended (h : ended.run messages = some phase) : messages = [] ∧ phase = ended := by
  cases messages with
  | nil =>
    cases h
    exact ⟨rfl, rfl⟩
  | cons message messages =>
    obtain ⟨between, hnext, -⟩ := run_cons_eq_some.mp h
    cases hnext

/-- Nothing leads back to before the start. -/
theorem run_eq_fresh (h : phase.run messages = some fresh) : messages = [] ∧ phase = fresh := by
  induction messages generalizing phase with
  | nil =>
    cases h
    exact ⟨rfl, rfl⟩
  | cons message messages ih =>
    obtain ⟨between, hnext, hrest⟩ := run_cons_eq_some.mp h
    obtain ⟨-, rfl⟩ := ih hrest
    obtain ⟨k, -, hk⟩ := next_eq_some hnext
    cases hk

/-- After an error there is the stop alone. -/
theorem kinds_of_run_failed (h : failed.run messages = some ended) :
    messages.map SocketMessage.kind = [some .stopped] := by
  cases messages with
  | nil => cases h
  | cons message messages =>
    obtain ⟨between, hnext, hrest⟩ := run_cons_eq_some.mp h
    obtain ⟨k, hkind, hk⟩ := next_eq_some hnext
    cases hk with
    | failed =>
      obtain ⟨rfl, -⟩ := run_ended hrest
      rw [List.map_cons, hkind]
      rfl

/-- After the start there are windows, an error or none, and the stop. -/
theorem kinds_of_run_streaming (h : streaming.run messages = some ended) :
    ∃ windows errors, errors ≤ 1 ∧ messages.map SocketMessage.kind
      = List.replicate windows (some .window) ++
        (List.replicate errors (some .error) ++ [some .stopped]) := by
  induction messages with
  | nil => cases h
  | cons message messages ih =>
    obtain ⟨between, hnext, hrest⟩ := run_cons_eq_some.mp h
    obtain ⟨k, hkind, hk⟩ := next_eq_some hnext
    rw [List.map_cons, hkind]
    cases hk with
    | window =>
      obtain ⟨windows, errors, herrors, hkinds⟩ := ih hrest
      refine ⟨windows + 1, errors, herrors, ?_⟩
      rw [hkinds]
      rfl
    | error =>
      refine ⟨0, 1, Nat.le_refl 1, ?_⟩
      rw [kinds_of_run_failed hrest]
      rfl
    | stopped =>
      obtain ⟨rfl, -⟩ := run_ended hrest
      exact ⟨0, 0, Nat.zero_le 1, rfl⟩

/-- Messages that leave no stream open are grammatical. -/
theorem grammatical_of_run (h : fresh.run messages = some phase) (hclosed : phase.isOpen = false) :
    Grammatical messages := by
  cases phase with
  | fresh => exact .inl (run_eq_fresh h).1
  | streaming => cases hclosed
  | failed => cases hclosed
  | ended =>
    cases messages with
    | nil => cases h
    | cons message messages =>
      obtain ⟨between, hnext, hrest⟩ := run_cons_eq_some.mp h
      obtain ⟨k, hkind, hk⟩ := next_eq_some hnext
      cases hk with
      | started =>
        obtain ⟨windows, errors, herrors, hkinds⟩ := kinds_of_run_streaming hrest
        refine .inr (.inr ⟨windows, errors, herrors, ?_⟩)
        rw [List.map_cons, hkind, hkinds]

/-- Messages of an open stream can go on to be grammatical. -/
theorem exists_grammatical (h : fresh.run messages = some phase) :
    ∃ later, Grammatical (messages ++ later) := by
  have hstop (streamId : String) (reason : StreamEndReason) :
      (SocketMessage.text (streamStoppedJson streamId reason)).kind = some .stopped := rfl
  cases phase with
  | fresh => exact ⟨[], grammatical_of_run (run_append_eq_some.mpr ⟨fresh, h, rfl⟩) rfl⟩
  | streaming =>
    refine ⟨[.text (streamStoppedJson "" .failed)], ?_⟩
    exact grammatical_of_run (run_append_eq_some.mpr ⟨streaming, h, rfl⟩) rfl
  | failed =>
    refine ⟨[.text (streamStoppedJson "" .failed)], ?_⟩
    exact grammatical_of_run (run_append_eq_some.mpr ⟨failed, h, rfl⟩) rfl
  | ended => exact ⟨[], grammatical_of_run (run_append_eq_some.mpr ⟨ended, h, rfl⟩) rfl⟩

end StreamPhase

/-- Messages in which a stream is started and not stopped. -/
def LeavesOpen (messages : List SocketMessage) : Prop :=
  some MessageKind.started ∈ messages.map SocketMessage.kind ∧
    some MessageKind.stopped ∉ messages.map SocketMessage.kind

instance (messages : List SocketMessage) : Decidable (LeavesOpen messages) :=
  inferInstanceAs (Decidable (_ ∧ _))

namespace StreamPhase

variable {phase phase' : StreamPhase} {messages : List SocketMessage}

/-- Messages after which a stream is open do not stop it. -/
theorem stopped_not_mem_of_run (h : phase.run messages = some phase')
    (hopen : phase'.isOpen = true) : some .stopped ∉ messages.map SocketMessage.kind := by
  induction messages generalizing phase with
  | nil => exact List.not_mem_nil
  | cons message messages ih =>
    obtain ⟨between, hnext, hrest⟩ := run_cons_eq_some.mp h
    obtain ⟨k, hkind, hk⟩ := next_eq_some hnext
    rw [List.map_cons, hkind, List.mem_cons, not_or]
    refine ⟨?_, ih hrest⟩
    rintro hstopped
    cases hk with
    | stopped | failed =>
      obtain ⟨-, rfl⟩ := run_ended hrest
      cases hopen
    | started | window | error => cases hstopped

/-- Messages that leave no stream open end in no open phase. -/
theorem isOpen_of_not_leavesOpen (h : fresh.run messages = some phase)
    (hopen : ¬LeavesOpen messages) : phase.isOpen = false := by
  cases hphase : phase.isOpen with
  | false => rfl
  | true =>
    refine absurd ⟨?_, stopped_not_mem_of_run h hphase⟩ hopen
    cases messages with
    | nil =>
      cases h
      cases hphase
    | cons message messages =>
      obtain ⟨between, hnext, -⟩ := run_cons_eq_some.mp h
      obtain ⟨k, hkind, hk⟩ := next_eq_some hnext
      cases hk with
      | started =>
        rw [List.map_cons, hkind]
        exact List.mem_cons_self

end StreamPhase

/-! ## The events of a capture -/

namespace StreamPhase

variable {phase phase' : StreamPhase}

/-- An event before others. -/
theorem follows_cons {event : StreamEvent} {events : List StreamEvent} :
    phase.Follows (event :: events) ↔
      ∃ between, phase.nextEvent event = some between ∧ between.Follows events := by
  unfold Follows
  rw [List.foldlM_cons]
  cases hevent : phase.nextEvent event with
  | none => simp
  | some between => simp

/-- Windows leave a stream open. -/
theorem follows_dataEvents (streamId : StreamId) (frames : List AudioFrame)
    {events : List StreamEvent} (h : streaming.Follows events) :
    streaming.Follows (dataEvents streamId frames ++ events) := by
  induction frames with
  | nil => exact h
  | cons frame frames ih => exact follows_cons.mpr ⟨streaming, rfl, ih⟩

/-- The events of an ending end an open stream. -/
theorem follows_ending (sourceId : SourceId) (streamId : StreamId) (ending : StreamEnding) :
    streaming.Follows (ending.events sourceId streamId) := by
  unfold StreamEnding.events
  cases ending.error sourceId streamId with
  | none => rfl
  | some error => rfl

/-- `process_capture` starts a stream first, and ends it last. -/
theorem follows_processCapture (processId : UInt32) (streamSequence : UInt64)
    (deliveries : List (CaptureMessage × Bool)) :
    fresh.Follows (processCapture processId streamSequence deliveries).1 := by
  by_cases hstarted : ∃ started recycled rest,
      deliveries = (CaptureMessage.started started, recycled) :: rest
  · obtain ⟨started, recycled, rest, rfl⟩ := hstarted
    obtain ⟨events, result, heq, hends⟩ :=
      processCapture_started processId streamSequence started recycled rest
    obtain ⟨frames, hevents⟩ := hends.events
    have hrest : streaming.Follows events := by
      dsimp only at hevents
      rw [hevents]
      refine follows_dataEvents _ frames ?_
      cases captureEnding ((CaptureMessage.started started, recycled) :: rest) with
      | none => rfl
      | some ending => exact follows_ending _ _ ending
    rw [heq]
    exact follows_cons.mpr ⟨streaming, rfl, hrest⟩
  · have hnone : (processCapture processId streamSequence deliveries).1 = [] := by
      refine processCapture_not_started processId streamSequence fun started hhead => hstarted ?_
      cases deliveries with
      | nil => cases hhead
      | cons delivery rest =>
        obtain ⟨message, recycled⟩ := delivery
        obtain rfl : message = .started started := Option.some.inj hhead
        exact ⟨started, recycled, rest, rfl⟩
    rw [hnone]
    rfl

/-- Windows leave a stream open, also on the wire. -/
theorem run_of_encodes {n : ℕ} {windows : List (ScheduledWindow StreamId)}
    {messages : List EncodedEvent} (h : Encodes n windows messages) :
    streaming.run (messages.map EncodedEvent.socketMessage) = some streaming := by
  induction windows generalizing n messages with
  | nil =>
    obtain rfl : messages = [] := h
    rfl
  | cons window windows ih =>
    obtain ⟨sequence, bytes, rest, rfl, -, -, hrest⟩ := h
    exact run_cons_eq_some.mpr ⟨streaming, rfl, ih hrest⟩

/-- The messages of an encoded event may come where the event may. -/
theorem run_of_encode {encoder encoder' : SessionEncoder} {event : StreamEvent}
    {messages : List EncodedEvent} (h : encoder.encode event = some (.ok messages, encoder'))
    (hevent : phase.nextEvent event = some phase') :
    phase.run (messages.map EncodedEvent.socketMessage) = some phase' := by
  have hone (message : SocketMessage) (hnext : phase.next message.kind = some phase') :
      phase.run [message] = some phase' := run_cons_eq_some.mpr ⟨phase', hnext, rfl⟩
  unfold nextEvent at hevent
  split at hevent
  next descriptor =>
    cases h
    exact hone _ hevent
  next packet =>
    cases hevent
    obtain ⟨streamId, payload⟩ := packet
    cases payload with
    | levels | spectrum =>
      cases h
      rfl
    | waveform frame =>
      obtain ⟨windows, hencodes, -⟩ := encodes_of_encode h
      exact run_of_encodes hencodes
  next error =>
    cases h
    exact hone _ hevent
  next streamId reason =>
    cases h
    exact hone _ hevent
  next streamId reason =>
    cases h
    exact hone _ hevent
  next => cases hevent

/-- The client's stop does not change where an event may come. -/
theorem nextEvent_relabel (clientStop : Bool) (event : StreamEvent) :
    phase.nextEvent (Session.relabel clientStop event) = phase.nextEvent event := by
  obtain h | ⟨streamId, reason, reason', rfl, h⟩ := Session.relabel_cases clientStop event
  · rw [h]
  · rw [h]
    cases phase <;> rfl

end StreamPhase

end ResonanceSignal
