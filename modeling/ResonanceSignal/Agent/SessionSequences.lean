import ResonanceSignal.Agent.ProcessRuns
import ResonanceSignal.Agent.Session

/-!
# The numbers of the binary messages

The encoder numbers the windows of a session on, and they pass the queue in that order. A window is
lost where the queue refuses it or the encoder fails after it took a number. The callback then
stores that the session is unhealthy, and the session loop, which looks at that before it takes a
message, leaves.

But the loop may be past that look when the flag is stored. It then takes one message more. If there
is one in the queue, it follows the ones before it (`Ordered.waiting`). If there is none, the loop
waits for the next one, and where that is a window it comes after the gap (`sequences_skip`). No
other interleaving has a gap (`gapless_until_skips`).
-/

namespace ResonanceSignal

/-! ## Payloads -/

/-- The bytes of a binary message. -/
def SocketMessage.payload? : SocketMessage → Option (List UInt8)
  | binary bytes => some bytes
  | text _ => none
  | pong _ => none
  | close => none

/-- The binary messages on a socket. -/
def payloads (messages : List SocketMessage) : List (List UInt8) :=
  messages.filterMap SocketMessage.payload?

/-- The binary messages of encoded events. -/
def encodedPayloads (events : List EncodedEvent) : List (List UInt8) :=
  payloads (events.map EncodedEvent.socketMessage)

/-- The binary messages of a queue. -/
def queuedPayloads (queue : List SessionMessage) : List (List UInt8) :=
  encodedPayloads (queue.filterMap SessionMessage.event?)

/-- The binary messages of two lists of messages. -/
theorem payloads_append (messages messages' : List SocketMessage) :
    payloads (messages ++ messages') = payloads messages ++ payloads messages' :=
  List.filterMap_append

/-- The binary messages of two lists of encoded events. -/
theorem encodedPayloads_append (events events' : List EncodedEvent) :
    encodedPayloads (events ++ events') = encodedPayloads events ++ encodedPayloads events' := by
  unfold encodedPayloads
  rw [List.map_append, payloads_append]

/-- The binary messages of two queues. -/
theorem queuedPayloads_append (queue queue' : List SessionMessage) :
    queuedPayloads (queue ++ queue') = queuedPayloads queue ++ queuedPayloads queue' := by
  unfold queuedPayloads
  rw [List.filterMap_append, encodedPayloads_append]

/-- The first event of a queue. -/
theorem queuedPayloads_event (event : EncodedEvent) (queue : List SessionMessage) :
    queuedPayloads (.event event :: queue)
      = payloads [event.socketMessage] ++ queuedPayloads queue :=
  encodedPayloads_append [event] (queue.filterMap SessionMessage.event?)

/-- A queue without an event has no binary message. -/
theorem queuedPayloads_of_no_event {queue : List SessionMessage}
    (h : ∀ m ∈ queue, ∀ e, m ≠ .event e) : queuedPayloads queue = [] := by
  have hnone : queue.filterMap SessionMessage.event? = [] := by
    rw [List.filterMap_eq_nil_iff]
    intro m hm
    cases m with
    | event encoded => exact absurd rfl (h _ hm encoded)
    | startupFailure kind retry => rfl
    | finished => rfl
  unfold queuedPayloads
  rw [hnone]
  rfl

/-- Messages of which none is binary have no binary message among them. -/
theorem payloads_of_no_binary {messages : List SocketMessage}
    (h : ∀ m ∈ messages, ∀ bytes, m ≠ .binary bytes) : payloads messages = [] := by
  unfold payloads
  rw [List.filterMap_eq_nil_iff]
  intro m hm
  cases m with
  | binary bytes => exact absurd rfl (h _ hm bytes)
  | text value => rfl
  | pong payload => rfl
  | close => rfl

/-! ## Numbers -/

/-- The number of a binary message. -/
def SocketMessage.sequence? : SocketMessage → Option ℕ
  | binary bytes => some (readField bytes 8 8)
  | text _ => none
  | pong _ => none
  | close => none

/-- The numbers of the binary messages on a socket. -/
def sequences (messages : List SocketMessage) : List ℕ := messages.filterMap SocketMessage.sequence?

/-- The numbers of encoded events. -/
def encodedSequences (events : List EncodedEvent) : List ℕ :=
  sequences (events.map EncodedEvent.socketMessage)

/-- The numbers of queued messages. -/
def queuedSequences (queue : List SessionMessage) : List ℕ :=
  encodedSequences (queue.filterMap SessionMessage.event?)

/-- The messages that the callback is still to send. -/
def CallbackStage.unsent : CallbackStage → List EncodedEvent
  | idle => []
  | sending _ messages => messages
  | failing _ => []

/-- The numbers on a socket are those of its binary messages. -/
theorem sequences_eq_map (messages : List SocketMessage) :
    sequences messages = (payloads messages).map fun bytes => readField bytes 8 8 := by
  unfold sequences payloads
  rw [List.map_filterMap]
  apply List.filterMap_congr
  intro message hmem
  cases message <;> rfl

/-- The numbers of encoded events are those of their binary messages. -/
theorem encodedSequences_eq_map (events : List EncodedEvent) :
    encodedSequences events = (encodedPayloads events).map fun bytes => readField bytes 8 8 :=
  sequences_eq_map _

/-- The numbers of a queue are those of its binary messages. -/
theorem queuedSequences_eq_map (queue : List SessionMessage) :
    queuedSequences queue = (queuedPayloads queue).map fun bytes => readField bytes 8 8 :=
  encodedSequences_eq_map _

/-- The numbers of two lists of messages. -/
theorem sequences_append (messages messages' : List SocketMessage) :
    sequences (messages ++ messages') = sequences messages ++ sequences messages' := by
  simp only [sequences_eq_map, payloads_append, List.map_append]

/-- The numbers of two lists of encoded events. -/
theorem encodedSequences_append (events events' : List EncodedEvent) :
    encodedSequences (events ++ events') = encodedSequences events ++ encodedSequences events' := by
  simp only [encodedSequences_eq_map, encodedPayloads_append, List.map_append]

/-- The numbers of two lists of queued messages. -/
theorem queuedSequences_append (queue queue' : List SessionMessage) :
    queuedSequences (queue ++ queue') = queuedSequences queue ++ queuedSequences queue' := by
  simp only [queuedSequences_eq_map, queuedPayloads_append, List.map_append]

/-- The number of a queued event is that of its message. -/
theorem queuedSequences_event (event : EncodedEvent) (queue : List SessionMessage) :
    queuedSequences (.event event :: queue)
      = sequences [event.socketMessage] ++ queuedSequences queue := by
  simp only [queuedSequences_eq_map, sequences_eq_map, queuedPayloads_event, List.map_append]

/-- A queue without an event has no number. -/
theorem queuedSequences_of_no_event {queue : List SessionMessage}
    (h : ∀ m ∈ queue, ∀ e, m ≠ .event e) : queuedSequences queue = [] := by
  rw [queuedSequences_eq_map, queuedPayloads_of_no_event h, List.map_nil]

/-- Messages of which none is binary have no number. -/
theorem sequences_of_no_binary {messages : List SocketMessage}
    (h : ∀ m ∈ messages, ∀ bytes, m ≠ .binary bytes) : sequences messages = [] := by
  rw [sequences_eq_map, payloads_of_no_binary h, List.map_nil]

/-- A first part of the numbers up to a bound is the numbers up to another one. -/
theorem eq_range_of_append {numbers later : List ℕ} {n : ℕ}
    (h : numbers ++ later = List.range n) : ∃ m, numbers = List.range m := by
  have htake : numbers = (List.range n).take numbers.length := by
    rw [← h, List.take_left]
  exact ⟨min numbers.length n, htake.trans List.take_range⟩

/-- The number after those up to a bound is the bound. -/
theorem eq_of_range_append {n m number : ℕ} (h : List.range n ++ [number] = List.range m) :
    number = n := by
  have hlength := congrArg List.length h
  rw [List.length_append, List.length_range, List.length_range, List.length_singleton] at hlength
  rw [← hlength, List.range_succ] at h
  exact List.singleton_inj.mp (List.append_cancel_left h)

/-- The messages of windows are numbered on. -/
theorem Encodes.sequences {n : ℕ} {windows : List (ScheduledWindow StreamId)}
    {events : List EncodedEvent} (h : Encodes n windows events) :
    encodedSequences events = List.range' n windows.length := by
  induction windows generalizing n events with
  | nil =>
    obtain rfl : events = [] := h
    rfl
  | cons window windows ih =>
    obtain ⟨sequence, bytes, rest, rfl, rfl, hbytes, hrest⟩ := h
    obtain ⟨-, rfl⟩ := encodeWaveformFrame_eq_ok hbytes
    have hfirst : readField (waveformHeader sequence window.frame ++ waveformPayload window.frame)
        8 8 = sequence.toNat := (headerFields_waveformHeader sequence window.frame _).sequence
    have hnumbers := ih hrest
    show _ :: encodedSequences rest = _
    rw [hnumbers, hfirst]
    rfl

/-- The messages of an event take the numbers from the encoder's on. -/
theorem range_append_of_encode {encoder encoder' : SessionEncoder} {event : StreamEvent}
    {messages : List EncodedEvent} (h : encoder.encode event = some (.ok messages, encoder')) :
    List.range encoder.sequence.toNat ++ encodedSequences messages
      = List.range encoder'.sequence.toNat := by
  have hnone (n : ℕ) : List.range n ++ [] = List.range n := List.append_nil _
  cases event with
  | started descriptor | error error | ended streamId reason =>
    cases h
    exact hnone _
  | data packet =>
    obtain ⟨streamId, payload⟩ := packet
    cases payload with
    | levels | spectrum =>
      cases h
      exact hnone _
    | waveform frame =>
      obtain ⟨windows, hencodes, hlast⟩ := encodes_of_encode h
      have happend := List.range'_append_1 (s := 0) (m := encoder.sequence.toNat)
        (n := windows.length)
      rw [hencodes.sequences, hlast, List.range_eq_range', List.range_eq_range']
      rwa [Nat.zero_add] at happend

namespace Session

variable {s s' : Session}

/-! ## The invariant -/

/-- The session loop takes no message any more. -/
def Passed (s : Session) : Prop := (s.unhealthy = true ∧ ¬s.Waits) ∨ s.Left

/-- The binary messages on the socket are numbered from zero without gaps. -/
def Gapless (s : Session) : Prop := ∃ n, sequences s.written = List.range n

/-- The numbers that the callback is still to send are the last ones that were taken. -/
def Numbered (s : Session) : Prop :=
  ∃ n, List.range n ++ encodedSequences s.callback.unsent = List.range s.encoder.sequence.toNat

/-- The numbers on the socket and those that follow them there. -/
inductive Ordered (s : Session) : Prop
  /-- Every number that was taken is on its way. -/
  | following (hunhealthy : s.unhealthy = false)
      (h : sequences s.written ++
          (queuedSequences s.events.queue ++ encodedSequences s.callback.unsent)
        = List.range s.encoder.sequence.toNat)
  /-- Some were lost, after all those that were queued, and the flag is about to be stored. -/
  | givingUp {event : StreamEvent} (hunhealthy : s.unhealthy = false)
      (hcallback : s.callback = .failing event)
      (h : ∃ n, sequences s.written ++ queuedSequences s.events.queue = List.range n)
  /-- One message may be taken yet, which is the first of the queue. -/
  | waiting (hunhealthy : s.unhealthy = true)
      (h : ∃ n, sequences s.written ++ queuedSequences (s.events.queue.take 1) = List.range n)
  /-- None is taken any more. -/
  | passed (hpassed : s.Passed) (h : s.Gapless)

/-- The callback is about to put a window that follows a gap into the empty queue that the session
loop waits for: fewer windows were written and are still to be sent than numbers were taken. -/
def Skips (s : Session) : Prop :=
  s.unhealthy = true ∧ s.Waits ∧ s.events.queue = [] ∧
    encodedSequences (s.callback.unsent.take 1) ≠ [] ∧
    (sequences s.written).length + (encodedSequences s.callback.unsent).length
      ≠ s.encoder.sequence.toNat

instance (s : Session) : Decidable s.Skips := inferInstanceAs (Decidable (_ ∧ _))

/-- The written messages are numbered on. -/
theorem Ordered.gapless (h : s.Ordered) : s.Gapless := by
  cases h with
  | following hunhealthy h => exact eq_range_of_append h
  | givingUp hunhealthy hcallback h =>
    obtain ⟨n, hn⟩ := h
    exact eq_range_of_append hn
  | waiting hunhealthy h =>
    obtain ⟨n, hn⟩ := h
    exact eq_range_of_append hn
  | passed hpassed h => exact h

/-- Where the session loop takes no message any more, the written ones decide. -/
theorem Ordered.of_passed (h : s.Ordered) (hwritten : sequences s'.written = sequences s.written)
    (hpassed : s'.Passed) : s'.Ordered := by
  obtain ⟨n, hn⟩ := h.gapless
  exact .passed hpassed ⟨n, hwritten.trans hn⟩

/-- A step that neither writes nor takes a number keeps the order, also where it queues messages
that have none. -/
theorem Ordered.congr (h : s.Ordered) (hunhealthy : s'.unhealthy = s.unhealthy)
    (hwritten : sequences s'.written = sequences s.written) {later : List SessionMessage}
    (hqueue : s'.events.queue = s.events.queue ++ later) (hlater : queuedSequences later = [])
    (hcallback : s'.callback = s.callback) (hencoder : s'.encoder = s.encoder)
    (hpassed : s.Passed → s'.Passed) : s'.Ordered := by
  have hqueued : queuedSequences s'.events.queue = queuedSequences s.events.queue := by
    rw [hqueue, queuedSequences_append, hlater, List.append_nil]
  cases h with
  | following hhealthy h =>
    refine .following (hunhealthy.trans hhealthy) ?_
    rw [hwritten, hqueued, hcallback, hencoder]
    exact h
  | givingUp hhealthy hfailing h =>
    refine .givingUp (hunhealthy.trans hhealthy) (hcallback.trans hfailing) ?_
    rw [hwritten, hqueued]
    exact h
  | waiting hflag h =>
    refine .waiting (hunhealthy.trans hflag) ?_
    rw [hqueue, hwritten]
    cases hempty : s.events.queue with
    | nil =>
      -- What joins the queue has no number.
      have hnone : queuedSequences (later.take 1) = [] := by
        rw [← List.take_append_drop 1 later, queuedSequences_append] at hlater
        exact (List.append_eq_nil_iff.mp hlater).1
      rw [hempty] at h
      rw [List.nil_append, hnone]
      exact h
    | cons message rest =>
      rw [hempty] at h
      exact h
  | passed hp h =>
    refine .passed (hpassed hp) ?_
    unfold Gapless
    rw [hwritten]
    exact h

/-! ## The worker -/

/-- Passing an event on takes the numbers of its windows. -/
theorem Passes.ordered (h : Passes s s') (hs : s.Numbered) (ho : s.Ordered) :
    s'.Numbered ∧ s'.Ordered := by
  have hnil : encodedSequences CallbackStage.idle.unsent = [] := rfl
  cases h with
  | panicked hupcoming hidle hencode =>
    exact ⟨hs, ho.congr rfl rfl (List.append_nil _).symm rfl rfl rfl id⟩
  | failed hupcoming hidle hencode =>
    refine ⟨⟨_, List.append_nil _⟩, ?_⟩
    cases ho with
    | following hunhealthy h =>
      rw [hidle, hnil, List.append_nil] at h
      exact .givingUp hunhealthy rfl ⟨_, h⟩
    | givingUp hunhealthy hcallback h =>
      rw [hidle] at hcallback
      cases hcallback
    | waiting hunhealthy h => exact .waiting hunhealthy h
    | passed hpassed h => exact .passed hpassed h
  | encoded hupcoming hidle hencode =>
    have hrange := range_append_of_encode hencode
    refine ⟨⟨_, hrange⟩, ?_⟩
    cases ho with
    | following hunhealthy h =>
      rw [hidle, hnil, List.append_nil] at h
      refine .following hunhealthy ?_
      rw [← List.append_assoc, h]
      exact hrange
    | givingUp hunhealthy hcallback h =>
      rw [hidle] at hcallback
      cases hcallback
    | waiting hunhealthy h => exact .waiting hunhealthy h
    | passed hpassed h => exact .passed hpassed h

/-- Sending a message keeps the order, unless it is a window after a gap that the session loop takes
next. -/
theorem Sends.ordered (h : Sends s s') (hskips : ¬s.Skips) (hs : s.Numbered) (ho : s.Ordered) :
    s'.Numbered ∧ s'.Ordered := by
  obtain ⟨k, hk⟩ := hs
  cases h with
  | @queued event message messages events hcallback hreceiver hreceiver' hsender hqueue =>
    have hunsent : encodedSequences s.callback.unsent
        = encodedSequences [message] ++ encodedSequences messages := by
      rw [hcallback, ← encodedSequences_append]
      rfl
    have hmessage : queuedSequences [.event message] = encodedSequences [message] := rfl
    rw [hunsent, ← List.append_assoc] at hk
    obtain ⟨k', hk'⟩ := eq_range_of_append hk
    refine ⟨⟨k', ?_⟩, ?_⟩
    · rw [← hk']
      exact hk
    cases ho with
    | following hunhealthy h =>
      -- The number goes from the unsent messages to the queue.
      refine .following hunhealthy ?_
      show _ ++ (queuedSequences events.queue ++ encodedSequences messages) = _
      rw [hqueue, queuedSequences_append, hmessage, List.append_assoc, ← hunsent]
      exact h
    | givingUp hunhealthy hfailing h =>
      rw [hcallback] at hfailing
      cases hfailing
    | waiting hunhealthy h =>
      cases hempty : s.events.queue with
      | cons first rest =>
        -- What the loop takes next stays the same.
        rw [hempty] at h hqueue
        refine .waiting hunhealthy ?_
        show ∃ n, _ ++ queuedSequences (events.queue.take 1) = List.range n
        rw [hqueue]
        exact h
      | nil =>
        obtain ⟨m, hm⟩ := h
        obtain ⟨n, hn⟩ := eq_range_of_append hm
        by_cases hwaits : s.Waits
        · -- The loop takes this message next: it has no number, or no number is missing before it.
          have htake : queuedSequences (events.queue.take 1) = encodedSequences [message] := by
            rw [hqueue, hempty]
            exact hmessage
          have hnext : ∃ m, sequences s.written ++ encodedSequences [message] = List.range m := by
            by_cases hnumber : encodedSequences [message] = []
            · exact ⟨n, by rw [hnumber, List.append_nil, hn]⟩
            · -- A number in the queue's first place that skips none: all before it are written.
              have hall : (sequences s.written).length
                  + (encodedSequences s.callback.unsent).length = s.encoder.sequence.toNat := by
                by_contra hlost
                refine hskips ⟨hunhealthy, hwaits, hempty, ?_, hlost⟩
                rw [hcallback]
                exact hnumber
              have hlength := congrArg List.length hk
              rw [List.append_assoc, ← hunsent, List.length_append, List.length_range,
                List.length_range] at hlength
              rw [hn, List.length_range] at hall
              obtain rfl : n = k := by omega
              exact ⟨k', hn ▸ hk'⟩
          refine .waiting hunhealthy ?_
          show ∃ m, _ ++ queuedSequences (events.queue.take 1) = List.range m
          rw [htake]
          exact hnext
        · exact .passed (.inl ⟨hunhealthy, hwaits⟩) ⟨n, hn⟩
    | passed hpassed h => exact .passed hpassed h
  | refused hcallback hevents =>
    refine ⟨⟨_, List.append_nil _⟩, ?_⟩
    cases ho with
    | following hunhealthy h =>
      -- The messages that are given up had the last numbers.
      rw [← List.append_assoc] at h
      exact .givingUp hunhealthy rfl (eq_range_of_append h)
    | givingUp hunhealthy hfailing h =>
      rw [hcallback] at hfailing
      cases hfailing
    | waiting hunhealthy h => exact .waiting hunhealthy h
    | passed hpassed h => exact .passed hpassed h
  | returned hcallback =>
    have hunsent : encodedSequences s.callback.unsent = [] := by
      rw [hcallback]
      rfl
    refine ⟨⟨_, List.append_nil _⟩, ?_⟩
    cases ho with
    | following hunhealthy h =>
      refine .following hunhealthy ?_
      rw [hunsent] at h
      exact h
    | givingUp hunhealthy hfailing h =>
      rw [hcallback] at hfailing
      cases hfailing
    | waiting hunhealthy h => exact .waiting hunhealthy h
    | passed hpassed h => exact .passed hpassed h

/-- The flag is stored: the session loop takes one message more at most. -/
theorem ordered_storeUnhealthy (h : s.storeUnhealthy = some s') (ho : s.Ordered) :
    s'.Numbered ∧ s'.Ordered := by
  obtain ⟨event, hcallback, rfl⟩ := storeUnhealthy_eq_some h
  have hsplit : queuedSequences s.events.queue
      = queuedSequences (s.events.queue.take 1) ++ queuedSequences (s.events.queue.drop 1) := by
    rw [← queuedSequences_append, List.take_append_drop]
  refine ⟨⟨_, List.append_nil _⟩, ?_⟩
  cases ho with
  | following hunhealthy h =>
    rw [hsplit, List.append_assoc, ← List.append_assoc] at h
    exact .waiting rfl (eq_range_of_append h)
  | givingUp hunhealthy hfailing h =>
    obtain ⟨n, hn⟩ := h
    rw [hsplit, ← List.append_assoc] at hn
    exact .waiting rfl (eq_range_of_append hn)
  | waiting hunhealthy h => exact .waiting rfl h
  | passed hpassed h =>
    refine .passed ?_ h
    rcases hpassed with ⟨-, hwaits⟩ | hleft
    · exact .inl ⟨rfl, hwaits⟩
    · exact .inr hleft

/-! ## The other parties -/

/-- What is passed stays so where the stage does. -/
theorem Passed.congr (h : s.Passed) (hunhealthy : s'.unhealthy = s.unhealthy)
    (hstage : s'.stage = s.stage) (hshuttingDown : s.shuttingDown = true → s'.shuttingDown = true) :
    s'.Passed := by
  rcases h with ⟨hflag, hwaits⟩ | hleft
  · refine .inl ⟨hunhealthy.trans hflag, ?_⟩
    rintro (hselecting | ⟨hchecking, hrunning⟩)
    · exact hwaits (.inl (hstage ▸ hselecting))
    · refine hwaits (.inr ⟨hstage ▸ hchecking, ?_⟩)
      cases hbefore : s.shuttingDown with
      | false => rfl
      | true => exact absurd (hshuttingDown hbefore) (by rw [hrunning]; exact Bool.false_ne_true)
  · refine .inr ?_
    unfold Left
    rw [hstage]
    exact hleft

/-- The capture task and the service keep the order. -/
theorem Background.ordered (h : Background s s') (hs : s.Numbered) (ho : s.Ordered) :
    s'.Numbered ∧ s'.Ordered := by
  obtain ⟨later, hqueue, hlater⟩ := h.queue
  constructor
  · unfold Numbered
    rw [h.callback, h.encoder]
    exact hs
  · exact ho.congr h.unhealthy (by rw [h.written]) hqueue (queuedSequences_of_no_event hlater)
      h.callback h.encoder fun hpassed => hpassed.congr h.unhealthy h.stage h.shuttingDown

/-- A message taken from the queue is the next one. -/
theorem Receives.ordered (h : Receives s s') (hstage : s.stage = .selecting) (ho : s.Ordered) :
    s'.Ordered := by
  have hnot : ¬s.Passed := by
    rintro (⟨-, hwaits⟩ | hleft)
    · exact hwaits (.inl hstage)
    · exact absurd hleft (not_left hstage rfl)
  cases h with
  | @event event events hqueue hreceiver hsender =>
    have hwrite : sequences (s.written ++ [event.socketMessage])
        = sequences s.written ++ sequences [event.socketMessage] := sequences_append _ _
    have hfirst := queuedSequences_event event events.queue
    cases ho with
    | following hunhealthy h =>
      refine .following hunhealthy ?_
      rw [hqueue, hfirst, List.append_assoc, ← List.append_assoc] at h
      show sequences (s.written ++ [event.socketMessage]) ++ _ = _
      rw [hwrite]
      exact h
    | givingUp hunhealthy hfailing h =>
      obtain ⟨n, hn⟩ := h
      refine .givingUp hunhealthy hfailing ⟨n, ?_⟩
      rw [hqueue, hfirst, ← List.append_assoc] at hn
      show sequences (s.written ++ [event.socketMessage]) ++ _ = _
      rw [hwrite]
      exact hn
    | waiting hunhealthy h =>
      -- That was the last message.
      obtain ⟨n, hn⟩ := h
      refine .passed (.inl ⟨hunhealthy, ?_⟩) ⟨n, ?_⟩
      · exact not_waits rfl
      · have hnil : queuedSequences ([] : List SessionMessage) = [] := rfl
        rw [hqueue, List.take_succ_cons, List.take_zero, queuedSequences_event, hnil,
          List.append_nil] at hn
        exact hwrite.trans hn
    | passed hpassed h => exact absurd hpassed hnot
  | startupFailure hqueue =>
    refine ho.of_passed ?_ (.inr rfl)
    exact (sequences_append _ _).trans (List.append_nil _)
  | finished hqueue => exact ho.of_passed rfl (.inr rfl)
  | disconnected hqueue hsender => exact ho.of_passed rfl (.inr rfl)

/-- The steps of the session loop keep the order. -/
theorem ordered_sessionLoop {a : Action} (ha : a.party = .sessionLoop) (h : s.step a = some s')
    (ho : s.Ordered) : s'.Ordered := by
  have hnil : s.events.queue = s.events.queue ++ [] := (List.append_nil _).symm
  cases a with
  | checkHealth =>
    obtain ⟨hstage, ⟨hunhealthy, rfl⟩ | ⟨hunhealthy, rfl⟩⟩ := checkHealth_eq_some h
    · refine ho.of_passed ?_ (.inr rfl)
      exact (sequences_append _ _).trans (List.append_nil _)
    · refine ho.congr rfl rfl hnil rfl rfl rfl fun hpassed => ?_
      rcases hpassed with ⟨hflag, -⟩ | hleft
      · exact absurd hflag (by rw [hunhealthy]; exact Bool.false_ne_true)
      · exact absurd hleft (not_left hstage rfl)
  | checkShutdown =>
    obtain ⟨hstage, ⟨hshuttingDown, rfl⟩ | ⟨hshuttingDown, rfl⟩⟩ := checkShutdown_eq_some h
    · exact ho.of_passed rfl (.inr rfl)
    · refine ho.congr rfl rfl hnil rfl rfl rfl fun hpassed => ?_
      rcases hpassed with ⟨-, hwaits⟩ | hleft
      · exact absurd (.inr ⟨hstage, hshuttingDown⟩) hwaits
      · exact absurd hleft (not_left hstage rfl)
  | receive =>
    obtain ⟨hstage, hreceives⟩ := receives_of_receive h
    exact hreceives.ordered hstage ho
  | client message =>
    obtain ⟨hstage, clientStop, stage, answers, rfl, hnext, hanswers⟩ := client_eq_some h
    have hwritten : sequences (s.written ++ answers) = sequences s.written := by
      rw [sequences_append, sequences_of_no_binary hanswers, List.append_nil]
    refine ho.congr rfl hwritten hnil rfl rfl rfl fun hpassed => ?_
    rcases hpassed with ⟨-, hwaits⟩ | hleft
    · exact absurd (.inl hstage) hwaits
    · exact absurd hleft (not_left hstage rfl)
  | storeStop =>
    obtain ⟨hstage, rfl⟩ := storeStop_eq_some h
    refine ho.congr rfl rfl hnil rfl rfl rfl fun hpassed => ?_
    rcases hpassed with ⟨hflag, -⟩ | hleft
    · exact .inl ⟨hflag, not_waits rfl⟩
    · exact absurd hleft (not_left hstage rfl)
  | leave =>
    obtain ⟨-, rfl⟩ := leave_eq_some h
    exact ho.of_passed rfl (.inr rfl)
  | close =>
    obtain ⟨-, -, rfl⟩ := closeSocket_eq_some h
    refine ho.of_passed ?_ (.inr rfl)
    exact (sequences_append _ _).trans (List.append_nil _)
  | event | send | fail | shutDown => contradiction
  | start _ | poll | complete | expire | report | finish | release => contradiction

/-- A step keeps the order, unless it sends a window after a gap. -/
theorem ordered_of_step {a : Action} (h : s.step a = some s') (hsend : ¬(a = .send ∧ s.Skips))
    (hs : s.Numbered ∧ s.Ordered) : s'.Numbered ∧ s'.Ordered := by
  obtain ⟨hn, ho⟩ := hs
  cases hparty : a.party with
  | worker =>
    cases a with
    | event => exact (passes_of_passEvent h).2.ordered hn ho
    | send => exact (sends_of_sendNext h).ordered (fun hskips => hsend ⟨rfl, hskips⟩) hn ho
    | fail => exact ordered_storeUnhealthy h ho
    | start _ | poll | complete | expire | report | finish | release => contradiction
    | checkHealth | checkShutdown | receive | client _ | storeStop | leave | close | shutDown =>
      contradiction
  | captureTask => exact (background_of_step (.inl hparty) h).ordered hn ho
  | service => exact (background_of_step (.inr hparty) h).ordered hn ho
  | sessionLoop =>
    obtain ⟨hcallback, hencoder⟩ := callback_sessionLoop hparty h
    refine ⟨?_, ordered_sessionLoop hparty h ho⟩
    unfold Numbered
    rw [hcallback, hencoder]
    exact hn

/-! ## Whole sessions -/

variable {shuttingDown : Bool} {upcoming : List StreamEvent} {completion : CaptureOwnerCompletion}

/-- The numbers of a session are in order, in every run in which the callback queues no window after
a gap where the session loop waits for one. -/
theorem ordered_of_run {actions : List Action}
    (h : (sessionSystem.restrict fun s a => ¬(a = .send ∧ s.Skips)).Run
      (new shuttingDown upcoming completion) actions s) : s.Numbered ∧ s.Ordered := by
  have hinit : (new shuttingDown upcoming completion).Numbered ∧
      (new shuttingDown upcoming completion).Ordered := ⟨⟨0, rfl⟩, .following rfl rfl⟩
  refine TransitionSystem.Run.invariant (I := fun s => s.Numbered ∧ s.Ordered) hinit ?_ h
  intro t a t' ht hstep
  exact ordered_of_step hstep.1 hstep.2 ht

/-- Where such a window is queued, a run goes on to write it. -/
theorem gap_of_skips {actions : List Action}
    (h : (sessionSystem.restrict fun s a => ¬(a = .send ∧ s.Skips)).Run
      (new shuttingDown upcoming completion) actions s)
    (hskips : s.Skips) (hsend : s.step .send = some s') :
    ∃ later s'', sessionSystem.Run s' later s'' ∧ ¬s''.Gapless := by
  obtain ⟨⟨k, hk⟩, ho⟩ := ordered_of_run h
  obtain ⟨n, hn⟩ := ho.gapless
  obtain ⟨-, hwaits, hempty, hnumber, hlost⟩ := hskips
  have hleft : ¬s.Left := by
    rcases hwaits with hstage | ⟨hstage, -⟩
    · exact not_left hstage rfl
    · exact not_left hstage rfl
  have hlistens : s.Listens := by
    refine TransitionSystem.Run.invariant (I := Listens) (.inr rfl) ?_ h.of_restrict
    intro t a t' ht hstep
    exact listens_of_step hstep ht
  have hreceiver : s.events.receiver = true := hlistens.resolve_left hleft
  cases sends_of_sendNext hsend with
  | refused hcallback hevents =>
    rw [hreceiver, hempty] at hevents
    rcases hevents with hgone | hfull
    · cases hgone
    · cases hfull
  | returned hcallback =>
    rw [hcallback] at hnumber
    exact absurd rfl hnumber
  | @queued event message messages events hcallback _ _ _ hqueue =>
    rw [hempty, List.nil_append] at hqueue
    have hunsent : encodedSequences s.callback.unsent
        = encodedSequences [message] ++ encodedSequences messages := by
      rw [hcallback, ← encodedSequences_append]
      rfl
    have hlength := congrArg List.length hk
    rw [List.length_append, List.length_range, List.length_range] at hlength
    rw [hn, List.length_range] at hlost
    -- The message has the number `k`, where `n` would follow those that are written.
    have hgap : ¬∃ m, sequences (s.written ++ [message.socketMessage]) = List.range m := by
      rintro ⟨m, hm⟩
      rw [hcallback] at hnumber
      rw [sequences_append, hn] at hm
      rw [hunsent, ← List.append_assoc] at hk
      obtain ⟨k', hk'⟩ := eq_range_of_append hk
      cases message with
      | text value => exact hnumber rfl
      | binary bytes =>
        have hnext : readField bytes 8 8 = n := eq_of_range_append hm
        have hfirst : readField bytes 8 8 = k := eq_of_range_append hk'
        omega
    rcases hwaits with hstage | ⟨hstage, hrunning⟩
    · obtain ⟨s'', hreceive, hwritten⟩ := exists_receive
        (s := { s with events, callback := .sending event messages }) hstage hqueue
      refine ⟨[.receive], s'', ⟨s'', hreceive, rfl⟩, ?_⟩
      unfold Gapless
      rw [hwritten]
      exact hgap
    · obtain ⟨s'', hreceive, hwritten⟩ := exists_receive
        (s := { s with events, callback := .sending event messages, stage := .selecting }) rfl hqueue
      refine ⟨[.checkShutdown, .receive], s'',
        ⟨{ s with events, callback := .sending event messages, stage := .selecting }, ?_, s'',
          hreceive, rfl⟩, ?_⟩
      · show checkShutdown _ = _
        unfold checkShutdown
        dsimp only
        rw [hstage, hrunning]
        rfl
      · unfold Gapless
        rw [hwritten]
        exact hgap

/-- The binary messages of a session are numbered without gaps, in every run in which the callback
queues no window after a gap where the session loop waits for one, and no weaker condition will do.
-/
theorem gapless_until_skips {actions : List Action}
    (h : (sessionSystem.restrict fun s a => ¬(a = .send ∧ s.Skips)).Run
      (new shuttingDown upcoming completion) actions s) :
    s.Gapless ∧ ∀ s', s.Skips → s.step .send = some s' →
      ∃ later s'', sessionSystem.Run s' later s'' ∧ ¬s''.Gapless :=
  ⟨(ordered_of_run h).2.gapless, fun _ hskips hsend => gap_of_skips h hskips hsend⟩

/-- A capture at 480 Hz: two packets of eight windows each, and two of one window each. -/
def burstCapture : List StreamEvent × CaptureOwnerCompletion :=
  let (events, result) := runCapture 1 1
    [(.started ⟨speakers, "Speakers", 480, 1, 128, capture480⟩, true),
      (.packet (AudioFrameBuilder.silentPacket capture480 0 128), true),
      (.packet (AudioFrameBuilder.silentPacket capture480 128 128), true),
      (.packet (AudioFrameBuilder.silentPacket capture480 256 16), true),
      (.packet (AudioFrameBuilder.silentPacket capture480 272 16), true),
      (.ended ⟨.stopRequested, none⟩, true)] false
  (events, workerCompletion result)

/-- A session with that capture. -/
def burstSession : Session := new false burstCapture.1 burstCapture.2

/-- The start of the stream is written, and the loop waits for the next message. -/
def openingActions : List Action :=
  [.start true, .event, .send, .send, .checkHealth, .checkShutdown, .receive, .checkHealth,
    .checkShutdown]

/-- The first window is written as well. -/
def firstWindowActions : List Action := openingActions ++ [.event, .send, .receive]

/-- The windows of the first two packets fill the queue, and the next one is refused. The loop
writes what is queued, and waits for the next message. Then the flag is stored, and the next window
is sent. -/
def skippingActions : List Action :=
  openingActions ++ (.event :: List.replicate 9 .send) ++ (.event :: List.replicate 9 .send) ++
    [.event, .send] ++ (List.replicate 16 [.receive, .checkHealth, .checkShutdown]).flatten ++
    [.fail, .event, .send, .receive]

/-- The session after its first window. -/
def firstWindowSession : Session :=
  (firstWindowActions.foldlM (TransitionSystem.guarded step fun s a => ¬(a = .send ∧ s.Skips))
    burstSession).getD burstSession

/-- After one window nothing is missing, and the next message does not skip any. -/
theorem gapless_until_skips_example :
    firstWindowSession.Gapless ∧
      ∀ s', firstWindowSession.Skips → firstWindowSession.step .send = some s' →
        ∃ later s'', sessionSystem.Run s' later s'' ∧ ¬s''.Gapless := by
  have hsome : (firstWindowActions.foldlM
      (TransitionSystem.guarded step fun s a => ¬(a = .send ∧ s.Skips))
      burstSession).isSome := by
    decide +kernel
  have hfold : firstWindowActions.foldlM
      (TransitionSystem.guarded step fun s a => ¬(a = .send ∧ s.Skips)) burstSession
      = some firstWindowSession := by
    obtain ⟨s, hs⟩ := Option.isSome_iff_exists.mp hsome
    rw [firstWindowSession, hs, Option.getD_some]
  exact gapless_until_skips (TransitionSystem.run_of_foldlM hfold)

/-- The callback stores late that a window was refused: the loop has written all that was queued,
and waits for the next window, which comes after the gap. -/
theorem sequences_skip : ∃ actions s,
    sessionSystem.Run burstSession actions s ∧ sequences s.written = List.range 16 ++ [17] ∧
      ¬s.Gapless := by
  have hfold : (skippingActions.foldlM (TransitionSystem.guarded step fun _ _ => True)
      burstSession).map (fun s => sequences s.written) = some (List.range 16 ++ [17]) := by
    decide +kernel
  obtain ⟨s, hs, hwritten⟩ := Option.map_eq_some_iff.mp hfold
  refine ⟨skippingActions, s, (TransitionSystem.run_of_foldlM hs).of_restrict, hwritten, ?_⟩
  rintro ⟨n, hn⟩
  have hlength := congrArg List.length hn
  rw [hwritten, List.length_range] at hlength
  rw [hwritten, ← hlength] at hn
  revert hn
  decide

end Session

end ResonanceSignal
