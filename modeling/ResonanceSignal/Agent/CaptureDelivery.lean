import Mathlib.Data.List.TakeWhile
import ResonanceSignal.Agent.SessionDelivery
import ResonanceSignal.Agent.WaveformFormat
import ResonanceSignal.Core.SingleFrames

/-!
# What of a capture is delivered

The events of a capture are the frames that the builder makes of its packets, and then no data any
more (`LoopStage.run_built`). The session's encoder pushes each of these frames on its own and goes
on after a frame that it fails on. It takes none before the first packet that one push can take, and
none after its first failure from there on, whichever failure that is: the scheduler is stuck, the
sequence numbers are used up, or no window of the format fits in a message. So what it makes of a
capture's events are windows that tile the timeline from that packet on (`exists_windows`).

The messages are numbered, so a part of them whose numbers have no gap is their beginning
(`eq_take_of_numbered`), and a socket whose numbers have no gap carries exactly the first words that
were captured from that packet on (`Session.delivered_pcm`).
-/

namespace ResonanceSignal

open WindowScheduler

/-! ## Numbered messages -/

/-- A part, in order, of values that are numbered on, whose own numbers have no gap, is their
beginning. -/
theorem eq_take_of_numbered {α : Type*} {number : α → ℕ} {part all : List α} {k m n : ℕ}
    (h : part.Sublist all) (hall : all.map number = List.range' k m)
    (hpart : part.map number = List.range' k n) : part = all.take n := by
  induction h generalizing k m n with
  | slnil => simp
  | @cons part all a h ih =>
    -- The first value is not in the part, so no value of the part has its number.
    cases m with
    | zero => cases hall
    | succ m =>
      rw [List.map_cons, List.range'_succ, List.cons.injEq] at hall
      cases n with
      | zero =>
        rw [List.map_eq_nil_iff.mp hpart]
        rfl
      | succ n =>
        have hmem : k ∈ all.map number := by
          refine (h.map number).subset ?_
          rw [hpart, List.range'_succ]
          exact List.mem_cons_self
        rw [hall.2, List.mem_range'_1] at hmem
        omega
  | @cons_cons part all a h ih =>
    cases m with
    | zero => cases hall
    | succ m =>
      rw [List.map_cons, List.range'_succ, List.cons.injEq] at hall
      cases n with
      | zero => cases hpart
      | succ n =>
        rw [List.map_cons, List.range'_succ, List.cons.injEq] at hpart
        rw [List.take_succ_cons, ih hall.2 hpart.2]

/-! ## Captured events -/

/-- Events none of which has data. -/
def NoData (events : List StreamEvent) : Prop := ∀ packet, StreamEvent.data packet ∉ events

/-- The ending of a stream has no data. -/
theorem noData_ending (sourceId : SourceId) (streamId : StreamId) (ending : Option StreamEnding) :
    NoData (ending.elim [] (StreamEnding.events sourceId streamId)) := by
  intro packet
  cases ending with
  | none => simp
  | some ending =>
    unfold Option.elim StreamEnding.events
    cases ending.error sourceId streamId <;> simp

/-- What the processing loop emits after a first part of its packets: their frames, and then no data
any more. -/
structure Built (state : Processing) (deliveries : List (CaptureMessage × Bool))
    (events : List StreamEvent) (packets : List CapturePacket) (frames : List AudioFrame) :
    Prop where
  /-- The packets come first. -/
  first : packets.map CaptureMessage.packet <+: deliveries.map Prod.fst
  /-- The builder makes the frames of them. -/
  built : ∃ builder, state.builder.pushAll packets = .ok (frames, builder)
  /-- The frames are the data. -/
  events : ∃ closing, events = dataEvents state.streamId frames ++ closing ∧ NoData closing

/-- A run that ends at once has no packets. -/
theorem Built.nil {state : Processing} {deliveries : List (CaptureMessage × Bool)}
    {events : List StreamEvent} (h : NoData events) : Built state deliveries events [] [] :=
  ⟨List.nil_prefix, ⟨state.builder, rfl⟩, events, rfl, h⟩

/-- The data of a run of the processing loop are the frames of its first packets. -/
theorem LoopStage.run_built (processId : UInt32) (streamSequence : UInt64) {state : Processing}
    (deliveries : List (CaptureMessage × Bool)) (h : state.Balanced) :
    ∃ packets frames, Built state deliveries
      ((processing state).run processId streamSequence deliveries).1 packets frames := by
  induction deliveries generalizing state with
  | nil => exact ⟨[], [], .nil (by simp [NoData, run])⟩
  | cons delivery deliveries ih =>
    obtain ⟨message, recycled⟩ := delivery
    have hreturned {events : List StreamEvent} {requestStop : Bool}
        {result : Except CaptureRunError CaptureReport}
        (hdeliver : (processing state).deliver processId streamSequence (message, recycled)
          = ⟨events, requestStop, .returned result⟩) (hnone : NoData events) :
        ∃ packets frames, Built state ((message, recycled) :: deliveries)
          ((processing state).run processId streamSequence ((message, recycled) :: deliveries)).1
          packets frames := by
      rw [run_cons_returned hdeliver]
      exact ⟨[], [], .nil hnone⟩
    have hempty : NoData [] := fun packet => List.not_mem_nil
    cases message with
    | started started => exact hreturned rfl hempty
    | ended termination =>
      exact hreturned rfl (noData_ending state.sourceId state.streamId (some (.ended termination)))
    | failed failure =>
      exact hreturned rfl (noData_ending state.sourceId state.streamId (some (.failed failure)))
    | packet packet =>
      by_cases hfits : state.evidence.packetCount.toNat + 1 < 2^64
      · cases recycled with
        | false =>
          exact hreturned (deliver_unrecycled processId streamSequence packet hfits) hempty
        | true =>
          cases hpush : state.builder.push packet with
          | mk outcome builder =>
            cases outcome with
            | ok built =>
              obtain ⟨state', hdeliver, hbalanced, hadvances⟩ :=
                Processing.deliver_packet processId streamSequence h hpush
              obtain ⟨packets, frames, hpackets, ⟨last, hbuilt⟩, closing, hevents, hnone⟩ :=
                ih hbalanced
              refine ⟨packet :: packets, built.frame :: frames, ?_, ⟨last, ?_⟩, closing, ?_,
                hnone⟩
              · exact (List.prefix_cons_inj _).mpr hpackets
              · rw [hadvances.builder] at hbuilt
                unfold AudioFrameBuilder.pushAll
                rw [hpush]
                dsimp only
                rw [hbuilt]
                rfl
              · rw [run_cons_waiting hdeliver]
                dsimp only
                rw [hevents, hadvances.streamId]
                rfl
            | error error =>
              obtain ⟨report, hdeliver, -⟩ :=
                deliver_rejected processId streamSequence hfits hpush
              rw [run_cons_waiting hdeliver, run_draining]
              refine ⟨[], [], .nil ?_⟩
              rw [List.append_nil]
              exact noData_ending state.sourceId state.streamId (some (.rejected error))
      · exact hreturned (deliver_uncounted processId streamSequence packet recycled
          (Nat.le_of_not_lt hfits)) hempty

/-- Events without data have no binary messages, and keep the encoder. -/
theorem payloadsOf_noData {events : List StreamEvent} (encoder : SessionEncoder)
    (later : List StreamEvent) (h : NoData events) :
    encoder.payloadsOf (events ++ later) = encoder.payloadsOf later := by
  induction events with
  | nil => rfl
  | cons event events ih =>
    have hrest := ih fun packet hmem => h packet (List.mem_cons_of_mem _ hmem)
    cases event with
    | data packet => exact absurd List.mem_cons_self (h packet)
    | started descriptor => exact hrest
    | error error => exact hrest
    | ended streamId reason => exact hrest

/-- Events without data have no binary messages. -/
theorem payloadsOf_eq_nil {events : List StreamEvent} (encoder : SessionEncoder)
    (h : NoData events) : encoder.payloadsOf events = [] := by
  have hevents := payloadsOf_noData encoder [] h
  rwa [List.append_nil] at hevents

/-! ## What the encoder makes of frames -/

/-- The loop over the windows fails where the numbers are used up, or where a window does not fit in
a message. -/
theorem encodeWindows_eq_error {sequence last : UInt64} {e : EncodeError}
    {windows : List (ScheduledWindow StreamId)}
    (h : SessionEncoder.encodeWindows sequence windows = (.error e, last)) :
    last.toNat + 1 = 2^64 ∨ ∃ window ∈ windows, ∃ number raised,
      encodeWaveformFrame number window.frame = .error raised := by
  induction windows generalizing sequence with
  | nil => cases h
  | cons w ws ih =>
    rw [SessionEncoder.encodeWindows] at h
    cases hadd : Checked.add sequence 1 with
    | none =>
      rw [hadd] at h
      cases h
      have hfull := Checked.add_eq_none.mp hadd
      have hone : (1 : UInt64).toNat = 1 := rfl
      have hlt := last.toNat_lt
      exact .inl (by omega)
    | some next =>
      simp only [hadd] at h
      cases hbytes : encodeWaveformFrame sequence w.frame with
      | error raised => exact .inr ⟨w, List.mem_cons_self, sequence, raised, hbytes⟩
      | ok bytes =>
        simp only [hbytes] at h
        cases hrest : SessionEncoder.encodeWindows next ws with
        | mk outcome last' =>
          rw [hrest] at h
          cases outcome with
          | ok rest => cases h
          | error e' =>
            cases h
            refine (ih hrest).imp_right ?_
            rintro ⟨window, hmem, hraised⟩
            exact ⟨window, List.mem_cons_of_mem _ hmem, hraised⟩

/-- Whether a window fits in a message depends on its length and its channels only. -/
theorem encodeWaveformFrame_same {number number' : UInt64} {frame frame' : AudioFrame}
    {bytes : List UInt8} {raised : EncodeError} (hcount : frame'.count = frame.count)
    (hchannels : frame'.channels = frame.channels)
    (h : encodeWaveformFrame number frame = .ok bytes) :
    encodeWaveformFrame number' frame' ≠ .error raised := by
  obtain ⟨hfew, hshort, -⟩ := encodeWaveformFrame_ok_iff.mp h
  intro hraised
  have hlength : messageLength frame' = messageLength frame := by
    rw [messageLength, messageLength, hcount, hchannels]
  rcases encodeWaveformFrame_error_iff.mp ⟨raised, hraised⟩ with hmany | hlong
  · rw [hchannels] at hmany
    omega
  · omega

/-- A window of a tiling is one of its format. -/
theorem windowAt_of_mem {fmt : StreamFormat} {streamId : StreamId} {P : FrameTimestamp → Prop}
    {base : ℕ} {windows : List (ScheduledWindow StreamId)}
    (h : WindowsFrom fmt streamId P base windows) {window : ScheduledWindow StreamId}
    (hmem : window ∈ windows) :
    window.frame.count = fmt.frames ∧ window.frame.channels = fmt.channels := by
  obtain ⟨k, hk, rfl⟩ := List.getElem_of_mem hmem
  have hat := h.getElem k hk
  exact ⟨hat.count, hat.channels⟩

/-- The payloads are the messages of the windows, which are numbered from `n`, tile the timeline
from frame `base` on, and carry the first of the samples. -/
structure Makes (fmt : StreamFormat) (streamId : StreamId) (P : FrameTimestamp → Prop)
    (n base : ℕ) (samples : List Sample) (payloads : List (List UInt8))
    (windows : List (ScheduledWindow StreamId)) (messages : List EncodedEvent) : Prop where
  /-- The payloads are the messages. -/
  payloads_eq : payloads = encodedPayloads messages
  /-- The messages are those of the windows. -/
  encodes : Encodes n windows messages
  /-- The numbers are not used up. -/
  number_lt : n + windows.length < 2^64
  /-- The windows tile the timeline. -/
  tiled : WindowsFrom fmt streamId P base windows
  /-- The windows have the first samples. -/
  first : windowSamples windows <+: samples

section Frames

variable {fmt : StreamFormat} {streamId : StreamId} {P : FrameTimestamp → Prop}
  {origin : FrameTimestamp} {base m : ℕ} {frames : List AudioFrame} {closing : List StreamEvent}

/-- No payload is made of no window. -/
theorem Makes.nil (n : UInt64) (base : ℕ) (samples : List Sample) :
    Makes fmt streamId P n.toNat base samples [] [] [] :=
  ⟨rfl, rfl, n.toNat_lt, trivial, List.nil_prefix⟩

/-- The encoder makes nothing of the later frames of a stuck stream. -/
theorem payloadsOf_stuck {encoder : SessionEncoder} {due : ℕ}
    (h : IsStuck encoder.scheduler streamId due) (hframes : FramesFrom fmt P due frames)
    (hnone : NoData closing) :
    encoder.payloadsOf (dataEvents streamId frames ++ closing) = [] := by
  induction frames generalizing encoder due with
  | nil => exact payloadsOf_eq_nil encoder hnone
  | cons f fs ih =>
    obtain ⟨hf, hrest⟩ := hframes
    obtain ⟨e, scheduler, hpush, hstuck⟩ := h.push (f := f) hf.first.ge
    have hencode : encoder.encode (.data ⟨streamId, .waveform f⟩)
        = some (.error (.scheduling e), { encoder with scheduler }) := by
      rw [SessionEncoder.encode]
      simp only [hpush]
    rw [hf.first] at hstuck
    show encoder.payloadsOf
      (.data ⟨streamId, .waveform f⟩ :: (dataEvents streamId fs ++ closing)) = []
    rw [SessionEncoder.payloadsOf, hencode]
    exact ih hstuck hrest

/-- What the encoder makes of the frames of a stream, from a frame on whose push ends in one of the
ways above. -/
theorem makes_of_pushed {encoder : SessionEncoder} {held : List Sample} {f : AudioFrame}
    (hpush : PushedFrame fmt streamId origin P base m held f (encoder.scheduler.push streamId f))
    (hframes : FramesFrom fmt P (base + m + f.count) frames) (hnone : NoData closing)
    (hrest : ∀ (next : SessionEncoder) (base' m' : ℕ),
      IsAt fmt streamId origin P base' m' next.scheduler → base' + m' = base + m + f.count →
      ∃ windows messages, Makes fmt streamId P next.sequence.toNat base'
        (next.scheduler.samples ++ frameSamples frames)
        (next.payloadsOf (dataEvents streamId frames ++ closing)) windows messages) :
    ∃ windows messages, Makes fmt streamId P encoder.sequence.toNat base
      (held ++ frameSamples (f :: frames))
      (encoder.payloadsOf (dataEvents streamId (f :: frames) ++ closing)) windows messages := by
  have hsamples : frameSamples (f :: frames) = f.samples ++ frameSamples frames := by
    simp [frameSamples]
  show ∃ windows messages, Makes fmt streamId P encoder.sequence.toNat base _
    (encoder.payloadsOf
      (.data ⟨streamId, .waveform f⟩ :: (dataEvents streamId frames ++ closing)))
    windows messages
  rw [SessionEncoder.payloadsOf, SessionEncoder.encode]
  dsimp only
  generalize encoder.scheduler.push streamId f = outcome at hpush
  cases hpush with
  | stuck e scheduler isStuck =>
    dsimp only
    rw [payloadsOf_stuck isStuck hframes hnone]
    exact ⟨[], [], .nil _ _ _⟩
  | scheduled r m' scheduler tiled lossless number isAt =>
    dsimp only
    cases hwindows : SessionEncoder.encodeWindows encoder.sequence r.windows with
    | mk encoded last =>
      obtain ⟨windows, messages, hmakes⟩ := hrest ⟨scheduler, last⟩ _ m' isAt (by omega)
      cases encoded with
      | ok events =>
        obtain ⟨hencodes, hlast⟩ := encodeWindows_eq_ok hwindows
        have hpayloads := hmakes.payloads_eq
        have hnumber := hmakes.number_lt
        have hnext := hmakes.encodes
        dsimp only at hpayloads hnumber hnext ⊢
        rw [hlast] at hnumber hnext
        refine ⟨r.windows ++ windows, events ++ messages, ?_, hencodes.append hnext, ?_,
          tiled.append hmakes.tiled, ?_⟩
        · rw [hpayloads, encodedPayloads_append]
        · rw [List.length_append, ← Nat.add_assoc]
          exact hnumber
        · rw [windowSamples_append, hsamples, ← List.append_assoc, ← lossless, List.append_assoc]
          exact (List.prefix_append_right_inj _).mpr hmakes.first
      | error raised =>
        -- After this failure no window is written: none has a number, or none fits in a message.
        have hempty : windows = [] := by
          cases windows with
          | nil => rfl
          | cons w ws =>
            rcases encodeWindows_eq_error hwindows with hfull | ⟨window, hmem, number, e, herror⟩
            · have hnumber := hmakes.number_lt
              rw [List.length_cons] at hnumber
              dsimp only at hnumber
              omega
            · obtain ⟨_, bytes, _, -, -, hbytes, -⟩ := hmakes.encodes
              obtain ⟨hcount, hchannels⟩ := windowAt_of_mem tiled hmem
              have hw := hmakes.tiled.1
              exact absurd herror (encodeWaveformFrame_same (hcount.trans hw.count.symm)
                (hchannels.trans hw.channels.symm) hbytes)
        subst hempty
        obtain rfl : messages = [] := hmakes.encodes
        have hpayloads := hmakes.payloads_eq
        dsimp only at hpayloads ⊢
        rw [hpayloads]
        exact ⟨[], [], .nil _ _ _⟩

/-- What the encoder makes of the frames of a stream that it is on. -/
theorem makes_of_isAt {encoder : SessionEncoder}
    (hat : IsAt fmt streamId origin P base m encoder.scheduler)
    (hframes : FramesFrom fmt P (base + m) frames) (hnone : NoData closing) :
    ∃ windows messages, Makes fmt streamId P encoder.sequence.toNat base
      (encoder.scheduler.samples ++ frameSamples frames)
      (encoder.payloadsOf (dataEvents streamId frames ++ closing)) windows messages := by
  induction frames generalizing encoder base m with
  | nil =>
    show ∃ windows messages, Makes fmt streamId P _ base _ (encoder.payloadsOf closing) windows
      messages
    rw [payloadsOf_eq_nil encoder hnone]
    exact ⟨[], [], .nil _ _ _⟩
  | cons f fs ih =>
    obtain ⟨hf, hrest⟩ := hframes
    refine makes_of_pushed (push_due hat hf) hrest hnone fun next base' m' hat' hdue => ih hat' ?_
    rw [hdue]
    exact hrest

/-- An encoder with a fresh scheduler makes nothing of frames that one push cannot take. -/
theorem payloadsOf_refused {encoder : SessionEncoder} {config : WindowSchedulerConfig}
    (hnew : encoder.scheduler = WindowScheduler.new config) (later : List StreamEvent)
    (h : ∀ f ∈ frames, ¬FitsOneCall config f) :
    encoder.payloadsOf (dataEvents streamId frames ++ later) = encoder.payloadsOf later := by
  induction frames with
  | nil => rfl
  | cons f fs ih =>
    obtain ⟨hf, hfs⟩ := List.forall_mem_cons.mp h
    obtain ⟨e, hpush⟩ := push_new_refused streamId hf
    rw [← hnew] at hpush
    have hencode : encoder.encode (.data ⟨streamId, .waveform f⟩)
        = some (.error (.scheduling e), encoder) := by
      rw [SessionEncoder.encode]
      simp only [hpush]
    show encoder.payloadsOf (.data ⟨streamId, .waveform f⟩ :: (dataEvents streamId fs ++ later))
      = encoder.payloadsOf later
    rw [SessionEncoder.payloadsOf, hencode]
    exact ih hfs

end Frames

/-! ## The packets of a capture -/

/-- One push cannot take the packet: it is longer than the windows that a push may cut. -/
def Oversized (config : WindowSchedulerConfig) (format : CaptureFormat) (packet : CapturePacket) :
    Prop :=
  ∃ windowFrames,
    windowFrameCount config.targetWindowDuration format.sampleRate = .ok windowFrames ∧
    windowFrames.get.toNat * config.maxWindowsPerPush.toNat < packet.frameCount.toNat

instance (config : WindowSchedulerConfig) (format : CaptureFormat) (packet : CapturePacket) :
    Decidable (Oversized config format packet) :=
  match h : windowFrameCount config.targetWindowDuration format.sampleRate with
  | .ok windowFrames =>
    decidable_of_iff
      (windowFrames.get.toNat * config.maxWindowsPerPush.toNat < packet.frameCount.toNat)
      (by simp [Oversized, h])
  | .error _ => isFalse (by simp [Oversized, h])

/-- The packets before the first one that one push of a session's scheduler can take. -/
def skippedPackets (format : CaptureFormat) (packets : List CapturePacket) : List CapturePacket :=
  packets.takeWhile fun packet => Oversized .default format packet

/-- The packets from the first one on that one push of a session's scheduler can take. -/
def keptPackets (format : CaptureFormat) (packets : List CapturePacket) : List CapturePacket :=
  packets.dropWhile fun packet => Oversized .default format packet

/-- A time of a frame of a stream that starts at frame `first`: that of the grid, from which it is
at most a nanosecond off, and not off at all where the stream starts at frame zero. -/
def OnTime (sampleRate : SampleRate) (first index time : ℕ) : Prop :=
  time ≤ index * 10^9 / sampleRate.hz.toNat ∧
    index * 10^9 / sampleRate.hz.toNat ≤ time + min first 1

instance (sampleRate : SampleRate) (first index time : ℕ) :
    Decidable (OnTime sampleRate first index time) := inferInstanceAs (Decidable (_ ∧ _))

/-- A timestamp that is on time. -/
def IsOnTime (sampleRate : SampleRate) (first : ℕ) (ts : FrameTimestamp) : Prop :=
  OnTime sampleRate first ts.frameIndex.toNat ts.streamTimeNs.toNat

/-- A timestamp on the grid is on time. -/
theorem isOnTime_of_onGrid {sampleRate : SampleRate} {ts : FrameTimestamp} (first : ℕ)
    (h : AudioFrameBuilder.OnGrid sampleRate ts) : IsOnTime sampleRate first ts := by
  rw [AudioFrameBuilder.OnGrid] at h
  exact ⟨h.le, h.ge.trans (Nat.le_add_right _ _)⟩

/-- A timestamp that is computed from an origin on the grid is on time. -/
theorem isOnTime_of_computed {sampleRate : SampleRate} {origin next : FrameTimestamp} {i : UInt64}
    (horigin : AudioFrameBuilder.OnGrid sampleRate origin)
    (h : timestampForFrameIndex origin i sampleRate = .ok next) :
    IsOnTime sampleRate origin.frameIndex.toNat next := by
  have hle : origin.frameIndex.toNat ≤ i.toNat := by
    simp only [timestampForFrameIndex, Result.bind_eq_ok, okOr_eq_ok, Checked.sub_eq_some] at h
    obtain ⟨_, ⟨hle, -⟩, -⟩ := h
    exact hle
  obtain ⟨-, rfl, htime⟩ := (timestampForFrameIndex_eq_ok hle).mp h
  rw [AudioFrameBuilder.OnGrid] at horigin
  rw [horigin] at htime
  unfold IsOnTime OnTime
  generalize origin.frameIndex.toNat = first at hle htime ⊢
  -- The origin's time and the time since are each rounded down.
  have hstep := AudioFrameBuilder.grid_step first (next.frameIndex.toNat - first) sampleRate
  rw [Nat.add_sub_cancel' hle, ← htime] at hstep
  refine ⟨hstep.1, ?_⟩
  by_cases hzero : first = 0
  · subst hzero
    rw [Nat.zero_mul, Nat.zero_div, Nat.zero_add, Nat.sub_zero] at htime
    omega
  · have hmin : min first 1 = 1 := by omega
    rw [hmin]
    exact hstep.2

/-- The frame of a packet that is too long for one push does not fit in one call. -/
theorem not_fitsOneCall {config : WindowSchedulerConfig} {format : CaptureFormat}
    {packet : CapturePacket} {f : AudioFrame} (hrate : f.sampleRate = format.sampleRate)
    (hcount : f.count = packet.frameCount.toNat) (h : Oversized config format packet) :
    ¬FitsOneCall config f := by
  obtain ⟨windowFrames, hw, hlt⟩ := h
  rintro ⟨windowFrames', hw', -, hle⟩
  rw [hrate] at hw'
  cases hw.symm.trans hw'
  omega

/-- The frame of any other packet does, where its format has a window and the bound on a call is
representable. -/
theorem fitsOneCall {config : WindowSchedulerConfig} {format : CaptureFormat}
    {packet : CapturePacket} {f : AudioFrame} {windowFrames : WindowFrames}
    (hrate : f.sampleRate = format.sampleRate) (hcount : f.count = packet.frameCount.toNat)
    (hw : windowFrameCount config.targetWindowDuration format.sampleRate = .ok windowFrames)
    (hmax : windowFrames.get.toNat * config.maxWindowsPerPush.toNat < 2^64)
    (h : ¬Oversized config format packet) : FitsOneCall config f := by
  refine ⟨windowFrames, ?_, hmax, ?_⟩
  · rw [hrate]
    exact hw
  · rw [hcount]
    exact not_lt.mp fun hlt => h ⟨windowFrames, hw, hlt⟩

/-- The bound on one push of a session's scheduler is representable. -/
theorem default_bound_lt (windowFrames : WindowFrames) :
    windowFrames.get.toNat * WindowSchedulerConfig.default.maxWindowsPerPush.toNat < 2^64 := by
  have hmax : WindowSchedulerConfig.default.maxWindowsPerPush.toNat = 8 := rfl
  have hlt : windowFrames.get.toNat < 2^32 := windowFrames.get.toNat_lt
  rw [hmax]
  omega

/-- The frames of packets are as many and as long as the packets. -/
theorem frames_of_packets {format : CaptureFormat} {builder last : AudioFrameBuilder}
    {packets : List CapturePacket} {frames : List AudioFrame} (hformat : builder.format = format)
    (h : builder.pushAll packets = .ok (frames, last)) {f : AudioFrame} (hf : f ∈ frames) :
    f.sampleRate = format.sampleRate ∧ ∃ packet ∈ packets, f.count = packet.frameCount.toNat := by
  subst hformat
  obtain ⟨hframes, hcounts, -, -⟩ := AudioFrameBuilder.pushAll_eq_ok
    ⟨builder.format.sampleRate, builder.format.channels, ⟨1, by decide⟩⟩ rfl rfl h
  obtain ⟨due, hat⟩ := hframes.frameAt f hf
  have hmem := List.mem_map_of_mem (f := AudioFrame.count) hf
  rw [hcounts] at hmem
  obtain ⟨packet, hpacket, hcount⟩ := List.mem_map.mp hmem
  exact ⟨hat.sampleRate, packet, hpacket, hcount.symm⟩

/-- The builder's next frame index counts the frames of the packets that it took. -/
theorem nextFrameIndex_of_new {format : CaptureFormat} {packets : List CapturePacket}
    {frames : List AudioFrame} {next : AudioFrameBuilder}
    (h : (AudioFrameBuilder.new format).pushAll packets = .ok (frames, next)) :
    next.nextFrameIndex.toNat = AudioFrameBuilder.packetFrames packets := by
  obtain ⟨-, hcounts, -, hindex⟩ := AudioFrameBuilder.pushAll_eq_ok
    ⟨format.sampleRate, format.channels, ⟨1, by decide⟩⟩ rfl rfl h
  have hzero : (AudioFrameBuilder.new format).nextFrameIndex.toNat = 0 := rfl
  rw [hindex, hzero, Nat.zero_add, frameCount, hcounts]
  rfl

section Packets

variable {format : CaptureFormat} {packets : List CapturePacket} {frames : List AudioFrame}
  {closing : List StreamEvent}

/-- The encoder of a new session makes nothing of the frames of the skipped packets. -/
theorem payloadsOf_skipped {next : AudioFrameBuilder} (streamId : StreamId)
    (h : (AudioFrameBuilder.new format).pushAll (skippedPackets format packets)
      = .ok (frames, next)) (later : List StreamEvent) :
    SessionEncoder.default.payloadsOf (dataEvents streamId frames ++ later)
      = SessionEncoder.default.payloadsOf later := by
  have hnew : SessionEncoder.default.scheduler = WindowScheduler.new .default := rfl
  apply payloadsOf_refused hnew later
  intro f hf
  obtain ⟨hrate, packet, hpacket, hcount⟩ := frames_of_packets rfl h hf
  have hlong := List.mem_takeWhile_imp hpacket
  exact not_fitsOneCall hrate hcount (of_decide_eq_true hlong)

/-- The frame of the first packet that is kept fits in one call. -/
theorem fitsOneCall_of_kept {f : AudioFrame} {fs : List AudioFrame} {windowFrames : WindowFrames}
    (hrate : f.sampleRate = format.sampleRate)
    (hcounts : (f :: fs).map AudioFrame.count
      = (keptPackets format packets).map fun packet => packet.frameCount.toNat)
    (hw : windowFrameCount defaultWindowDuration format.sampleRate = .ok windowFrames) :
    FitsOneCall .default f := by
  cases hkept : keptPackets format packets with
  | nil =>
    rw [hkept] at hcounts
    cases hcounts
  | cons packet rest =>
    rw [hkept] at hcounts
    have hcount := (List.cons.inj hcounts).1
    have hnot := List.head?_dropWhile_not
      (fun packet => decide (Oversized .default format packet)) packets
    rw [show packets.dropWhile _ = _ from hkept] at hnot
    exact fitsOneCall hrate hcount hw (default_bound_lt windowFrames) (of_decide_eq_false hnot)

/-- What the encoder of a new session makes of the frames of a stream whose first frame fits in one
call. -/
theorem makes_of_first (fmt : StreamFormat) (streamId : StreamId) {first : ℕ} {f : AudioFrame}
    {fs : List AudioFrame}
    (hw : windowFrameCount defaultWindowDuration fmt.sampleRate = .ok fmt.windowFrames)
    (hfits : FitsOneCall .default f)
    (hframes : FramesFrom fmt (AudioFrameBuilder.OnGrid fmt.sampleRate) first (f :: fs))
    (hnone : NoData closing) :
    ∃ windows messages, Makes fmt streamId (IsOnTime fmt.sampleRate first) 0 first
      (frameSamples (f :: fs))
      (SessionEncoder.default.payloadsOf (dataEvents streamId (f :: fs) ++ closing)) windows
      messages := by
  have hnew : SessionEncoder.default.scheduler = WindowScheduler.new .default := rfl
  have hzero : SessionEncoder.default.sequence.toNat = 0 := rfl
  obtain ⟨⟨hfirst, hrate, hchannels, hgrid⟩, hlater⟩ := hframes
  have hindex : f.window.start.frameIndex.toNat = first := hfirst
  have hcomputed : ∀ i next, timestampForFrameIndex f.window.start i f.sampleRate = .ok next →
      IsOnTime fmt.sampleRate first next := by
    intro i next hnext
    rw [hrate] at hnext
    rw [← hindex]
    exact isOnTime_of_computed hgrid hnext
  obtain ⟨windowFrames, hw', hpushed⟩ :=
    push_new streamId hfits (isOnTime_of_onGrid first hgrid) hcomputed
  rw [hrate] at hw'
  cases hw.symm.trans hw'
  rw [hrate, hchannels, ← hnew] at hpushed
  have hontime : FramesFrom fmt (IsOnTime fmt.sampleRate first) (f.first + 0 + f.count) fs := by
    rw [Nat.add_zero, hfirst]
    exact hlater.imp rfl rfl fun ts => isOnTime_of_onGrid first
  obtain ⟨windows, messages, hmakes⟩ := makes_of_pushed hpushed hontime hnone
    fun next base' m' hat hdue => makes_of_isAt hat (hdue ▸ hontime) hnone
  rw [hzero, List.nil_append, hfirst] at hmakes
  exact ⟨windows, messages, hmakes⟩

/-- What the encoder of a new session makes of the frames of captured packets are windows of the
capture's format that tile the timeline from the first packet on that one push can take, and carry
the first samples of the packets from there on. -/
theorem exists_windows {builder : AudioFrameBuilder} (streamId : StreamId)
    (hbuilt : (AudioFrameBuilder.new format).pushAll packets = .ok (frames, builder))
    (hnone : NoData closing) :
    ∃ (fmt : StreamFormat) (windows : List (ScheduledWindow StreamId))
      (messages : List EncodedEvent),
      fmt.sampleRate = format.sampleRate ∧ fmt.channels = format.channels ∧
      (windows ≠ [] →
        windowFrameCount defaultWindowDuration format.sampleRate = .ok fmt.windowFrames) ∧
      Makes fmt streamId
        (IsOnTime format.sampleRate
          (AudioFrameBuilder.packetFrames (skippedPackets format packets)))
        0 (AudioFrameBuilder.packetFrames (skippedPackets format packets))
        ((keptPackets format packets).flatMap (AudioFrameBuilder.samplesOf format))
        (SessionEncoder.default.payloadsOf (dataEvents streamId frames ++ closing))
        windows messages := by
  have hnew : SessionEncoder.default.scheduler = WindowScheduler.new .default := rfl
  have hstart : (AudioFrameBuilder.new format).format = format := rfl
  have hsplit : skippedPackets format packets ++ keptPackets format packets = packets :=
    List.takeWhile_append_dropWhile
  rw [← hsplit] at hbuilt
  obtain ⟨frames₁, frames₂, next, rfl, hformat, hskipped, hkept⟩ :=
    AudioFrameBuilder.pushAll_append hbuilt
  have hpayloads : SessionEncoder.default.payloadsOf
      (dataEvents streamId (frames₁ ++ frames₂) ++ closing)
        = SessionEncoder.default.payloadsOf (dataEvents streamId frames₂ ++ closing) := by
    rw [dataEvents, List.map_append, List.append_assoc]
    exact payloadsOf_skipped streamId hskipped _
  rw [hpayloads]
  cases hw : windowFrameCount defaultWindowDuration format.sampleRate with
  | error e =>
    -- A format without a window: no frame is taken.
    have hnever : ∀ f ∈ frames₂, ¬FitsOneCall .default f := by
      intro f hf
      obtain ⟨hrate, -⟩ := frames_of_packets (hformat.trans hstart) hkept hf
      rintro ⟨windowFrames, hok, -⟩
      rw [hrate] at hok
      cases hw.symm.trans hok
    rw [payloadsOf_refused hnew closing hnever, payloadsOf_eq_nil _ hnone]
    exact ⟨⟨format.sampleRate, format.channels, ⟨1, by decide⟩⟩, [], [], rfl, rfl,
      fun h => absurd rfl h, .nil 0 _ _⟩
  | ok windowFrames =>
    refine ⟨⟨format.sampleRate, format.channels, windowFrames⟩, ?_⟩
    obtain ⟨hframes, hcounts, hsamples, -⟩ := AudioFrameBuilder.pushAll_eq_ok
      ⟨format.sampleRate, format.channels, windowFrames⟩ (by rw [hformat]; rfl)
      (by rw [hformat]; rfl) hkept
    rw [hformat.trans hstart] at hframes hsamples
    rw [nextFrameIndex_of_new hskipped] at hframes
    rw [← hsamples]
    generalize AudioFrameBuilder.packetFrames (skippedPackets format packets) = first at hframes ⊢
    cases frames₂ with
    | nil =>
      refine ⟨[], [], rfl, rfl, fun _ => rfl, ?_⟩
      show Makes _ streamId _ 0 first _ (SessionEncoder.default.payloadsOf closing) [] []
      rw [payloadsOf_eq_nil _ hnone]
      exact .nil 0 _ _
    | cons f fs =>
      have hfits := fitsOneCall_of_kept hframes.1.sampleRate hcounts hw
      obtain ⟨windows, messages, hmakes⟩ :=
        makes_of_first ⟨format.sampleRate, format.channels, windowFrames⟩ streamId hw hfits hframes
          hnone
      exact ⟨windows, messages, rfl, rfl, fun _ => rfl, hmakes⟩

end Packets

/-- The binary messages of encoded binary messages. -/
theorem encodedPayloads_binary (messages : List (List UInt8)) :
    encodedPayloads (messages.map .binary) = messages := by
  unfold encodedPayloads payloads
  rw [List.map_map, List.filterMap_map]
  exact List.filterMap_some

/-- The messages are read back as default windows of the format from frame `first` on, numbered from
zero, each at the time of its first frame. -/
def ReadsBack (format : CaptureFormat) (first : ℕ) (parsed : List ParsedWaveform) : Prop :=
  ∀ k (hk : k < parsed.length), ∃ windowFrames,
    windowFrameCount defaultWindowDuration format.sampleRate = .ok windowFrames ∧
    parsed[k].sequence = k ∧ parsed[k].frameIndex = first + k * windowFrames.get.toNat ∧
    OnTime format.sampleRate first parsed[k].frameIndex parsed[k].streamTimeNs ∧
    parsed[k].frameCount = windowFrames.get.toNat ∧ parsed[k].channels = format.channelCount

/-- The beginning of what is read back is read back. -/
theorem ReadsBack.take {format : CaptureFormat} {first : ℕ} {parsed : List ParsedWaveform}
    (h : ReadsBack format first parsed) (n : ℕ) : ReadsBack format first (parsed.take n) := by
  intro k hk
  rw [List.length_take] at hk
  rw [List.getElem_take]
  exact h k (by omega)

/-- The payloads that the encoder makes are read back, with the first of the samples. -/
theorem Makes.exists_readsBack {format : CaptureFormat} {fmt : StreamFormat} {streamId : StreamId}
    {first : ℕ} {samples : List Sample} {payloads : List (List UInt8)}
    {windows : List (ScheduledWindow StreamId)} {messages : List EncodedEvent}
    (h : Makes fmt streamId (IsOnTime format.sampleRate first) 0 first samples payloads windows
      messages)
    (hw : windows ≠ [] →
      windowFrameCount defaultWindowDuration format.sampleRate = .ok fmt.windowFrames)
    (hchannels : fmt.channels = format.channels) :
    ∃ parsed, payloads.map parseWaveform = parsed.map .ok ∧ ReadsBack format first parsed ∧
      parsed.flatMap ParsedWaveform.samples <+: samples.map Sample.bits := by
  obtain ⟨sent, parsed, rfl, hparsed, hsamples, hfields⟩ := exists_parsed h.encodes h.tiled
  refine ⟨parsed, ?_, ?_, ?_⟩
  · rw [h.payloads_eq, encodedPayloads_binary]
    exact hparsed
  · intro k hk
    -- Something was read, so there is a window, and the format has a window length.
    have hne : windows ≠ [] := by
      rintro rfl
      obtain rfl : sent = [] := List.map_eq_nil_iff.mp h.encodes
      rw [List.map_nil, eq_comm, List.map_eq_nil_iff] at hparsed
      rw [hparsed, List.length_nil] at hk
      omega
    obtain ⟨hsequence, hindex, ⟨start, hstart, hat, htime⟩, hcount, hlayout⟩ := hfields k hk
    rw [Nat.zero_add] at hsequence
    rw [IsOnTime, hat, htime] at hstart
    rw [hchannels] at hlayout
    exact ⟨fmt.windowFrames, hw hne, hsequence, hindex, hstart, hcount, hlayout⟩
  · rw [hsamples]
    exact h.first.map Sample.bits

/-- The events of a capture that starts have as data the frames of its first packets. -/
theorem exists_built (processId : UInt32) (streamSequence : UInt64) (started : CaptureStarted)
    (recycled : Bool) (deliveries : List (CaptureMessage × Bool)) :
    ∃ (packets : List CapturePacket) (frames : List AudioFrame) (closing : List StreamEvent),
      packets.map CaptureMessage.packet <+: deliveries.map Prod.fst ∧
      (∃ builder,
        (AudioFrameBuilder.new started.format).pushAll packets = .ok (frames, builder)) ∧
      NoData closing ∧
      ∀ encoder : SessionEncoder,
        encoder.payloadsOf (processCapture processId streamSequence
            ((.started started, recycled) :: deliveries)).1
          = encoder.payloadsOf
            (dataEvents (streamIdOf processId streamSequence) frames ++ closing) := by
  have hdeliver : LoopStage.starting.deliver processId streamSequence (.started started, recycled)
      = ⟨[startedEvent processId streamSequence started], false,
        .waiting (.processing (startedState processId streamSequence started))⟩ := by
    unfold LoopStage.deliver LoopStage.receive
    simp only [beginStream_started]
  obtain ⟨packets, frames, hfirst, hbuilt, closing, hevents, hnone⟩ :=
    LoopStage.run_built processId streamSequence deliveries
      (Processing.Balanced.startedState processId streamSequence started)
  refine ⟨packets, frames, closing, hfirst, hbuilt, hnone, fun encoder => ?_⟩
  unfold processCapture
  rw [LoopStage.run_cons_waiting hdeliver]
  dsimp only
  rw [payloadsOf_noData _ _ (by simp [NoData, startedEvent]), hevents]
  rfl

namespace Session

variable {s : Session} {shuttingDown : Bool} {completion : CaptureOwnerCompletion}
  {actions : List Action}

/-- A capture that starts, on any interleaving of a session whose socket has no gap in its numbers,
whatever the encoder makes of the frames: what the consumer reads are the first windows of the
timeline of the announced format, and the words in them are the first words that were captured, in
order and unchanged, from the first packet on that one push can take. The packets are those that the
builder accepts before the end. -/
theorem delivered_pcm (processId : UInt32) (streamSequence : UInt64) (started : CaptureStarted)
    (recycled : Bool) (deliveries : List (CaptureMessage × Bool))
    (h : sessionSystem.Run (new shuttingDown (processCapture processId streamSequence
      ((.started started, recycled) :: deliveries)).1 completion) actions s)
    {n : ℕ} (hgapless : sequences s.written = List.range n) :
    ∃ (packets : List CapturePacket) (parsed : List ParsedWaveform),
      packets.map CaptureMessage.packet <+: deliveries.map Prod.fst ∧
      (∃ built, (AudioFrameBuilder.new started.format).pushAll packets = .ok built) ∧
      parsed.length = n ∧ (payloads s.written).map parseWaveform = parsed.map .ok ∧
      ReadsBack started.format
        (AudioFrameBuilder.packetFrames (skippedPackets started.format packets)) parsed ∧
      parsed.flatMap ParsedWaveform.samples
        <+: (keptPackets started.format packets).flatMap (packetWords started.format) := by
  obtain ⟨packets, frames, closing, hfirst, ⟨builder, hbuilt⟩, hnone, hpayloads⟩ :=
    exists_built processId streamSequence started recycled deliveries
  obtain ⟨fmt, windows, messages, -, hchannels, hwindow, hmakes⟩ :=
    exists_windows (streamIdOf processId streamSequence) hbuilt hnone
  obtain ⟨parsed, hparsed, hreads, hwords⟩ := hmakes.exists_readsBack hwindow hchannels
  have hnumbered := hmakes.encodes.sequences
  rw [encodedSequences, sequences_eq_map, ← encodedPayloads, ← hmakes.payloads_eq] at hnumbered
  -- What was written is a part of what the encoder makes of the frames.
  have hdelivered := (List.sublist_append_left _ _).trans (carried_of_run h)
  rw [hpayloads] at hdelivered
  generalize SessionEncoder.default.payloadsOf _ = made at hparsed hnumbered hdelivered
  -- The messages are numbered from zero, so what was written is their beginning.
  rw [sequences_eq_map, List.range_eq_range'] at hgapless
  have htake : payloads s.written = made.take n :=
    eq_take_of_numbered hdelivered hnumbered hgapless
  have hlength : (payloads s.written).length = n := by
    rw [← List.length_map (f := fun bytes => readField bytes 8 8), hgapless, List.length_range']
  refine ⟨packets, parsed.take n, hfirst, ⟨_, hbuilt⟩, ?_, ?_, hreads.take n, ?_⟩
  · have hsame := congrArg List.length hparsed
    rw [List.length_map, List.length_map] at hsame
    rw [List.length_take, ← hsame, ← List.length_take, ← htake, hlength]
  · rw [htake, List.map_take, List.map_take, hparsed]
  · have hbits : ((keptPackets started.format packets).flatMap
        (AudioFrameBuilder.samplesOf started.format)).map Sample.bits
          = (keptPackets started.format packets).flatMap (packetWords started.format) := by
      rw [List.map_flatMap]
      simp only [map_bits_samplesOf]
    rw [hbits] at hwords
    refine List.IsPrefix.trans ?_ hwords
    exact ⟨(parsed.drop n).flatMap ParsedWaveform.samples, by
      rw [← List.flatMap_append, List.take_append_drop]⟩

/-- The window of a session that is stopped and closed is the packet that was captured. -/
theorem delivered_pcm_closed :
    ∃ (packets : List CapturePacket) (parsed : List ParsedWaveform),
      packets.map CaptureMessage.packet <+: stoppedDeliveries.tail.map Prod.fst ∧
      (∃ built, (AudioFrameBuilder.new capture480).pushAll packets = .ok built) ∧
      parsed.length = 1 ∧ (payloads closedSession.written).map parseWaveform = parsed.map .ok ∧
      ReadsBack capture480 (AudioFrameBuilder.packetFrames (skippedPackets capture480 packets))
        parsed ∧
      parsed.flatMap ParsedWaveform.samples
        <+: (keptPackets capture480 packets).flatMap (packetWords capture480) := by
  have hrun : sessionSystem.Run stoppedSession stoppingActions closedSession :=
    TransitionSystem.run_of_isSome (by decide +kernel)
  exact delivered_pcm 1 1 ⟨speakers, "Speakers", 480, 1, 128, capture480⟩ true
    stoppedDeliveries.tail hrun (by decide +kernel)

end Session

end ResonanceSignal
