import ResonanceSignal.Agent.Protocol
import ResonanceSignal.Agent.Timeline

/-!
# From packets to the wire

The three stages of a stream of PCM data: native packets become frames, the session's scheduler
re-blocks the frames into windows, and each window becomes a binary message. A message is read back
as what was written (`parseWaveform_encodeWaveformFrame`), the messages of a session are the windows
of one run of its scheduler, numbered from zero (`encodeAll_eq_some`), and those windows tile the
grid of the builder's timeline. Together they say that the words of the packets arrive in order and
complete, up to the last partial window (`captured_pcm_on_wire`).
-/

namespace ResonanceSignal

/-! ## One message -/

/-- A field past the first part of a message is read from the rest. -/
theorem readField_skip {before after : List UInt8} {offset width : ℕ}
    (h : before.length ≤ offset) :
    readField (before ++ after) offset width = readField after (offset - before.length) width := by
  rw [readField, readField, List.drop_append, List.drop_of_length_le h, List.nil_append]

/-- A field at the front of a message is the number that was written there. -/
theorem readField_encode {after : List UInt8} {width n : ℕ} (hn : n < 256^width) :
    readField (LittleEndian.encode width n ++ after) 0 width = n := by
  rw [readField, List.drop_zero, List.take_append_of_le_length (by simp),
    List.take_of_length_le (by simp), LittleEndian.decode_encode hn]

/-- What a message says of the frame that it was encoded from. -/
def parsedOf (sequence : UInt64) (frame : AudioFrame) : ParsedWaveform where
  sequence := sequence.toNat
  frameIndex := frame.first
  streamTimeNs := frame.window.start.streamTimeNs.toNat
  frameCount := frame.count
  channels := frame.channels.channels
  samples := frame.samples.map Sample.bits

/-- A header has 40 bytes. -/
theorem length_waveformHeader (sequence : UInt64) (frame : AudioFrame) :
    (waveformHeader sequence frame).length = 40 := by
  simp [waveformHeader, binaryMagic]

/-- A frame that is encoded has one or two channels, and its message is its header and payload. -/
theorem encodeWaveformFrame_eq_ok {sequence : UInt64} {frame : AudioFrame} {bytes : List UInt8}
    (h : encodeWaveformFrame sequence frame = .ok bytes) :
    frame.channels.channels ≤ 2 ∧
      bytes = waveformHeader sequence frame ++ waveformPayload frame := by
  simp only [encodeWaveformFrame, Result.bind_eq_ok, failIf_eq_ok] at h
  obtain ⟨-, hchannels, _, -, -, -, _, -, -, -, _, -, h⟩ := h
  cases h
  exact ⟨not_lt.mp hchannels, rfl⟩

/-- The fields of a message are those of its frame. -/
structure HeaderFields (sequence : UInt64) (frame : AudioFrame) (payload : List UInt8) : Prop where
  magic : payload.take 4 = binaryMagic
  version : readField payload 4 1 = 1
  headerLength : readField payload 5 1 = 40
  sequence : readField payload 8 8 = sequence.toNat
  frameIndex : readField payload 16 8 = frame.first
  streamTimeNs : readField payload 24 8 = frame.window.start.streamTimeNs.toNat
  frameCount : readField payload 32 4 = frame.count
  channels : readField payload 36 2 = frame.channels.channels

/-- A header carries the fields of its frame, whatever follows it. -/
theorem headerFields_waveformHeader (sequence : UInt64) (frame : AudioFrame) (after : List UInt8) :
    HeaderFields sequence frame (waveformHeader sequence frame ++ after) := by
  have hsequence : sequence.toNat < 256^8 := lt_of_lt_of_eq sequence.toNat_lt (by norm_num)
  have hindex : frame.first < 256^8 :=
    lt_of_lt_of_eq frame.window.start.frameIndex.toNat_lt (by norm_num)
  have htime : frame.window.start.streamTimeNs.toNat < 256^8 :=
    lt_of_lt_of_eq frame.window.start.streamTimeNs.toNat_lt (by norm_num)
  have hcount : frame.count < 256^4 :=
    lt_of_lt_of_eq frame.window.frameCount.toNat_lt (by norm_num)
  have hchannels : frame.channels.channels < 256^2 :=
    lt_of_lt_of_eq frame.channels.channelCount.get.toNat_lt (by norm_num)
  have hmagic : binaryMagic.length = 4 := rfl
  have hone : ∀ byte : UInt8, [byte].length = 1 := fun _ => rfl
  have hlen := LittleEndian.length_encode
  constructor <;> simp only [waveformHeader, List.append_assoc]
  · rfl
  · rfl
  · rfl
  -- Each of the other fields stands behind the fields before it.
  · iterate 4 rw [readField_skip (by simp [hmagic])]
    simp only [hmagic, hone, hlen]
    exact readField_encode hsequence
  · iterate 5 rw [readField_skip (by simp [hmagic])]
    simp only [hmagic, hone, hlen]
    exact readField_encode hindex
  · iterate 6 rw [readField_skip (by simp [hmagic])]
    simp only [hmagic, hone, hlen]
    exact readField_encode htime
  · iterate 7 rw [readField_skip (by simp [hmagic])]
    simp only [hmagic, hone, hlen]
    exact readField_encode hcount
  · iterate 8 rw [readField_skip (by simp [hmagic])]
    simp only [hmagic, hone, hlen]
    exact readField_encode hchannels

/-- A message is read back as the frame that it was encoded from. -/
theorem parseWaveform_encodeWaveformFrame {sequence : UInt64} {frame : AudioFrame}
    {bytes : List UInt8} (h : encodeWaveformFrame sequence frame = .ok bytes) :
    parseWaveform bytes = .ok (parsedOf sequence frame) := by
  obtain ⟨hchannels, rfl⟩ := encodeWaveformFrame_eq_ok h
  have hpos := frame.channels.channels_pos
  have hlen : frame.samples.length = frame.count * frame.channels.channels := frame.length_eq
  have hpayload : (waveformPayload frame).length
      = frame.count * frame.channels.channels * 4 := by
    rw [waveformPayload, LittleEndian.length_packWords, List.length_map, hlen, Nat.mul_comm]
  have hfields := headerFields_waveformHeader sequence frame (waveformPayload frame)
  have htotal : (waveformHeader sequence frame ++ waveformPayload frame).length
      = 40 + frame.count * frame.channels.channels * 4 := by
    rw [List.length_append, length_waveformHeader, hpayload]
  have hdrop : (waveformHeader sequence frame ++ waveformPayload frame).drop 40
      = waveformPayload frame := by
    rw [← length_waveformHeader sequence frame, List.drop_left]
  have hmem : frame.channels.channels ∈ [1, 2] := by
    simp only [List.mem_cons, List.not_mem_nil, or_false]
    omega
  simp only [parseWaveform, Result.bind_eq_ok, failIf_eq_ok, hfields.magic, hfields.version,
    hfields.headerLength, hfields.sequence, hfields.frameIndex, hfields.streamTimeNs,
    hfields.frameCount, hfields.channels, htotal, hdrop]
  refine ⟨(), by simp, (), by simp, (), not_or.mpr ⟨not_not.mpr hmem, not_not.mpr rfl⟩, ?_⟩
  rw [List.take_of_length_le hpayload.le, waveformPayload, LittleEndian.unpackWords_packWords]
  rfl

/-! ## The messages of a session -/

open WindowScheduler

/-- The messages of a list of windows, the first of which has sequence number `n`. -/
def Encodes : ℕ → List (ScheduledWindow StreamId) → List EncodedEvent → Prop
  | _, [], events => events = []
  | n, window :: windows, events =>
    ∃ sequence bytes rest, events = .binary bytes :: rest ∧ sequence.toNat = n ∧
      encodeWaveformFrame sequence window.frame = .ok bytes ∧ Encodes (n + 1) windows rest

/-- Messages of two lists of windows, numbered on. -/
theorem Encodes.append {n : ℕ} {ws ws' : List (ScheduledWindow StreamId)}
    {events events' : List EncodedEvent} (h : Encodes n ws events)
    (h' : Encodes (n + ws.length) ws' events') : Encodes n (ws ++ ws') (events ++ events') := by
  induction ws generalizing n events with
  | nil =>
    obtain rfl : events = [] := h
    simpa using h'
  | cons w ws ih =>
    obtain ⟨sequence, bytes, rest, rfl, hn, hbytes, hrest⟩ := h
    refine ⟨sequence, bytes, rest ++ events', rfl, hn, hbytes, ih hrest ?_⟩
    rw [List.length_cons] at h'
    rwa [Nat.add_assoc, Nat.add_comm 1]

/-- The loop over the windows numbers them on, and writes a message for each. -/
theorem encodeWindows_eq_ok {sequence last : UInt64} {windows : List (ScheduledWindow StreamId)}
    {events : List EncodedEvent}
    (h : SessionEncoder.encodeWindows sequence windows = (.ok events, last)) :
    Encodes sequence.toNat windows events ∧ last.toNat = sequence.toNat + windows.length := by
  induction windows generalizing sequence events with
  | nil =>
    cases h
    exact ⟨rfl, rfl⟩
  | cons w ws ih =>
    rw [SessionEncoder.encodeWindows] at h
    cases hadd : Checked.add sequence 1 with
    | none =>
      rw [hadd] at h
      cases h
    | some next =>
      simp only [hadd] at h
      cases hbytes : encodeWaveformFrame sequence w.frame with
      | error e =>
        rw [hbytes] at h
        cases h
      | ok bytes =>
        simp only [hbytes] at h
        cases hrest : SessionEncoder.encodeWindows next ws with
        | mk outcome last' =>
          rw [hrest] at h
          cases outcome with
          | error e => cases h
          | ok rest =>
            cases h
            obtain ⟨hencodes, hlast⟩ := ih hrest
            rw [Checked.add_eq_some, show (1 : UInt64).toNat = 1 from rfl] at hadd
            rw [hadd] at hencodes hlast
            refine ⟨⟨sequence, bytes, rest, rfl, rfl, hbytes, hencodes⟩, ?_⟩
            rw [hlast, List.length_cons]
            omega

/-- The messages of a frame are those of the windows that the scheduler cuts. -/
theorem encodes_of_encode {encoder encoder' : SessionEncoder} {streamId : StreamId}
    {frame : AudioFrame} {messages : List EncodedEvent}
    (h : encoder.encode (.data ⟨streamId, .waveform frame⟩) = some (.ok messages, encoder')) :
    ∃ windows, Encodes encoder.sequence.toNat windows messages ∧
      encoder'.sequence.toNat = encoder.sequence.toNat + windows.length := by
  unfold SessionEncoder.encode at h
  dsimp only at h
  cases hpush : encoder.scheduler.push streamId frame with
  | none =>
    rw [hpush] at h
    cases h
  | some pushed =>
    obtain ⟨outcome, scheduler⟩ := pushed
    rw [hpush] at h
    cases outcome with
    | error error => cases h
    | ok scheduled =>
      dsimp only at h
      cases hwindows : SessionEncoder.encodeWindows encoder.sequence scheduled.windows with
      | mk encoded last =>
        rw [hwindows] at h
        cases h
        exact ⟨scheduled.windows, encodeWindows_eq_ok hwindows⟩

/-- The event of one frame of a stream's data. -/
def dataEvent (streamId : StreamId) (frame : AudioFrame) : StreamEvent :=
  .data ⟨streamId, .waveform frame⟩

/-- The messages of a session's data are the windows of a run of its scheduler. -/
theorem encodeAll_eq_some {encoder encoder' : SessionEncoder} {streamId : StreamId}
    {frames : List AudioFrame} {messages : List EncodedEvent}
    (h : encoder.encodeAll (frames.map (dataEvent streamId)) = some (messages, encoder')) :
    ∃ calls : List (Call StreamId), pushes.Run encoder.scheduler calls encoder'.scheduler ∧
      (∀ c ∈ calls, c.identity = streamId ∧ c.Succeeds) ∧ pushed calls = frames ∧
      Encodes encoder.sequence.toNat (emitted calls) messages := by
  induction frames generalizing encoder messages with
  | nil =>
    cases h
    exact ⟨[], rfl, nofun, rfl, rfl⟩
  | cons f fs ih =>
    rw [List.map_cons, SessionEncoder.encodeAll, dataEvent, SessionEncoder.encode] at h
    dsimp only at h
    -- One frame is one call of the scheduler, and its windows take the next numbers.
    cases hpush : encoder.scheduler.push streamId f with
    | none =>
      rw [hpush] at h
      cases h
    | some p =>
      obtain ⟨outcome, scheduler⟩ := p
      simp only [hpush] at h
      cases outcome with
      | error e => cases h
      | ok scheduled =>
        cases hwindows : SessionEncoder.encodeWindows encoder.sequence scheduled.windows with
        | mk encoded sequence =>
          simp only [hwindows] at h
          cases encoded with
          | error e => cases h
          | ok events =>
            dsimp only at h
            obtain ⟨⟨rest, last⟩, hrest, heq⟩ := Option.map_eq_some_iff.mp h
            cases heq
            obtain ⟨hencodes, hlast⟩ := encodeWindows_eq_ok hwindows
            obtain ⟨calls, hrun, hcalls, hpushed, hmessages⟩ := ih hrest
            refine ⟨⟨streamId, [f], .ok scheduled⟩ :: calls, ⟨scheduler, hpush, hrun⟩,
              List.forall_mem_cons.mpr ⟨⟨rfl, scheduled, rfl⟩, hcalls⟩, ?_, ?_⟩
            · rw [pushed_cons, hpushed]
              rfl
            · rw [emitted_cons]
              refine hencodes.append ?_
              dsimp only [Call.windows]
              rw [← hlast]
              exact hmessages

/-! ## The whole way -/

/-- The words that a packet of the format stands for. -/
def packetWords (format : CaptureFormat) (packet : CapturePacket) : List UInt32 :=
  if packet.flags.silent then List.replicate (packet.frameCount.toNat * format.channelCount) 0
  else LittleEndian.unpackWords packet.bytes

/-- A packet's samples have its words. -/
theorem map_bits_samplesOf (format : CaptureFormat) (packet : CapturePacket) :
    (AudioFrameBuilder.samplesOf format packet).map Sample.bits = packetWords format packet := by
  rw [AudioFrameBuilder.samplesOf, packetWords]
  split_ifs
  · rw [List.map_replicate]
    rfl
  · rw [List.map_map]
    exact List.map_id' _

/-- What the consumer reads from the messages of windows that tile a timeline from frame `base` on,
the first of which has sequence number `n`. -/
theorem exists_parsed {fmt : StreamFormat} {streamId : StreamId} {P : FrameTimestamp → Prop}
    {n base : ℕ} {windows : List (ScheduledWindow StreamId)} {messages : List EncodedEvent}
    (hencodes : Encodes n windows messages) (htiled : WindowsFrom fmt streamId P base windows) :
    ∃ (payloads : List (List UInt8)) (parsed : List ParsedWaveform),
      messages = payloads.map .binary ∧ payloads.map parseWaveform = parsed.map .ok ∧
      parsed.flatMap ParsedWaveform.samples = (windowSamples windows).map Sample.bits ∧
      ∀ k (hk : k < parsed.length),
        parsed[k].sequence = n + k ∧
        parsed[k].frameIndex = base + k * fmt.frames ∧
        (∃ start, P start ∧ start.frameIndex.toNat = parsed[k].frameIndex ∧
          start.streamTimeNs.toNat = parsed[k].streamTimeNs) ∧
        parsed[k].frameCount = fmt.frames ∧
        parsed[k].channels = fmt.channels.channels := by
  induction windows generalizing n base messages with
  | nil =>
    obtain rfl : messages = [] := hencodes
    exact ⟨[], [], rfl, rfl, rfl, nofun⟩
  | cons w ws ih =>
    obtain ⟨sequence, bytes, rest, rfl, hsequence, hbytes, hrest⟩ := hencodes
    obtain ⟨hw, htail⟩ := htiled
    obtain ⟨payloads, parsed, rfl, hparsed, hsamples, hfields⟩ := ih hrest htail
    refine ⟨bytes :: payloads, parsedOf sequence w.frame :: parsed, rfl, ?_, ?_, ?_⟩
    · rw [List.map_cons, List.map_cons, hparsed, parseWaveform_encodeWaveformFrame hbytes]
    · rw [List.flatMap_cons, hsamples]
      simp [windowSamples, parsedOf]
    · -- The first message is the first window, and the others are numbered from it.
      intro k hk
      cases k with
      | zero =>
        have hchannels : w.frame.channels.channels = fmt.channels.channels := by rw [hw.channels]
        simp only [List.getElem_cons_zero, Nat.zero_mul, Nat.add_zero]
        exact ⟨hsequence, hw.first, ⟨w.frame.window.start, hw.start, rfl, rfl⟩, hw.count, hchannels⟩
      | succ k =>
        have hshift : base + (k + 1) * fmt.frames = base + fmt.frames + k * fmt.frames := by
          rw [Nat.succ_mul]
          omega
        have hnumber : n + (k + 1) = n + 1 + k := by omega
        rw [hshift, hnumber]
        simpa using hfields k (by simpa using hk)

/-- Captured PCM survives to the wire. Packets that a builder accepts, and whose frames a session
encodes under one stream, arrive as messages that are numbered from zero, tile the timeline from
frame zero on, and carry the packets' words in order, up to less than a window at the end. -/
theorem captured_pcm_on_wire {format : CaptureFormat} {packets : List CapturePacket}
    {frames : List AudioFrame} {builder : AudioFrameBuilder} {streamId : StreamId}
    {messages : List EncodedEvent} {encoder : SessionEncoder}
    (hbuilt : (AudioFrameBuilder.new format).pushAll packets = .ok (frames, builder))
    (hencoded : SessionEncoder.default.encodeAll (frames.map (dataEvent streamId))
      = some (messages, encoder)) :
    packets = [] ∧ messages = [] ∨
      ∃ (windowFrames : WindowFrames) (payloads : List (List UInt8))
        (parsed : List ParsedWaveform),
        windowFrameCount defaultWindowDuration format.sampleRate = .ok windowFrames ∧
        messages = payloads.map .binary ∧ payloads.map parseWaveform = parsed.map .ok ∧
        (∀ k (hk : k < parsed.length),
          parsed[k].sequence = k ∧
          parsed[k].frameIndex = k * windowFrames.get.toNat ∧
          parsed[k].streamTimeNs
            = k * windowFrames.get.toNat * 10^9 / format.sampleRate.hz.toNat ∧
          parsed[k].frameCount = windowFrames.get.toNat ∧
          parsed[k].channels = format.channelCount) ∧
        ∃ missing, packets.flatMap (packetWords format)
            = parsed.flatMap ParsedWaveform.samples ++ missing ∧
          missing.length < windowFrames.get.toNat * format.channelCount := by
  obtain ⟨hframes, hcounts, hsamples, -⟩ := AudioFrameBuilder.pushAll_eq_ok
    ⟨format.sampleRate, format.channels, ⟨1, by decide⟩⟩ rfl rfl hbuilt
  obtain ⟨calls, hrun, hcalls, hpushed, hencodes⟩ := encodeAll_eq_some hencoded
  -- The stream starts at frame zero of the grid, and so all of its timestamps are on the grid.
  have hhead : ∀ f, (pushed calls).head? = some f →
      f.window.start = AudioFrameBuilder.zeroTimestamp ∧ f.sampleRate = format.sampleRate ∧
        f.channels = format.channels := by
    intro f hf
    rw [hpushed] at hf
    obtain ⟨fs, rfl⟩ := List.head?_eq_some_iff.mp hf
    exact ⟨AudioFrameBuilder.eq_zeroTimestamp hframes.1.first hframes.1.start,
      hframes.1.sampleRate, hframes.1.channels⟩
  have hgrid : ∀ f ∈ pushed calls,
      AudioFrameBuilder.OnGrid format.sampleRate f.window.start := by
    intro f hf
    rw [hpushed] at hf
    obtain ⟨due, hat⟩ := hframes.frameAt f hf
    exact hat.start
  rcases run_scheduled hrun hcalls (by simp [SessionEncoder.default, WindowScheduler.new])
    (fun _ => rfl) hgrid (fun f hf i next hnext => by
      obtain ⟨hzero, hrate, -⟩ := hhead f hf
      rw [hzero, hrate] at hnext
      exact AudioFrameBuilder.onGrid_of_timestampForFrameIndex hnext) with
    ⟨hp, he, -, -⟩ | ⟨fmt, f, hf, hrate, hchannels, hw, hs, -, -⟩
  · -- Nothing was pushed.
    rw [he] at hencodes
    rw [hpushed] at hp
    rw [hp, List.map_nil] at hcounts
    exact .inl ⟨List.map_eq_nil_iff.mp hcounts.symm, hencodes⟩
  · obtain ⟨hzero, hfrate, hfchannels⟩ := hhead f hf
    rw [hfrate] at hrate hw
    rw [hfchannels] at hchannels
    rw [hzero] at hs
    have htiled := hs.tiled
    rw [← hrate] at htiled
    obtain ⟨payloads, parsed, hmessages, hparsed, hwords, hfields⟩ :=
      exists_parsed hencodes htiled
    obtain ⟨m, hstream, -⟩ := hs.stream
    have hlossless := congrArg (List.map Sample.bits) hs.lossless
    rw [hpushed, hsamples, List.map_append, ← hwords, List.map_flatMap] at hlossless
    refine .inr ⟨fmt.windowFrames, payloads, parsed, hw, hmessages, hparsed, ?_,
      encoder.scheduler.samples.map Sample.bits, ?_, ?_⟩
    · intro k hk
      obtain ⟨h1, h2, ⟨start, hgrid, hindex, htime⟩, h4, h5⟩ := hfields k hk
      have hzeroIndex : AudioFrameBuilder.zeroTimestamp.frameIndex.toNat = 0 := rfl
      have hzeroSequence : SessionEncoder.default.sequence.toNat = 0 := rfl
      rw [hzeroSequence, Nat.zero_add] at h1
      rw [hzeroIndex, Nat.zero_add] at h2
      rw [AudioFrameBuilder.OnGrid, hindex, htime, h2, hrate] at hgrid
      rw [hchannels] at h5
      exact ⟨h1, h2, hgrid, h4, h5⟩
    · rw [hlossless]
      simp only [map_bits_samplesOf]
      rfl
    · rw [List.length_map, hstream.retained.length, hchannels]
      exact Nat.mul_lt_mul_of_pos_right hstream.lt format.channels.channels_pos

/-- Mono capture at 480 Hz, whose default windows are of 16 frames. -/
def capture480 : CaptureFormat := ⟨⟨480, by decide⟩, CaptureFormat.monoLayout⟩

/-- A packet of ten frames at the device position `n`, all of them `1.0`. -/
def onesPacket (n : UInt64) : CapturePacket where
  buffer := LittleEndian.packWords (List.replicate 10 0x3f800000)
  byteLen := 40
  frameCount := 10
  devicePosition := n
  qpcTimestamp100ns := n
  flags := ⟨false, false, false⟩
  callbackInterval := none
  callbackDuration := .zero
  byteLen_le := by decide

/-- Ten silent frames, and then twenty that are not. -/
def wirePackets : List CapturePacket :=
  [AudioFrameBuilder.silentPacket capture480 0 10, onesPacket 10, onesPacket 20]

/-- The frames of those packets. -/
def wireFrames : List AudioFrame × AudioFrameBuilder :=
  ((AudioFrameBuilder.new capture480).pushAll wirePackets).toOption.getD
    ([], AudioFrameBuilder.new capture480)

/-- A stream. -/
def streamOne : StreamId := ⟨"stream-1", by decide⟩

/-- The messages of those frames. -/
def wireMessages : List EncodedEvent × SessionEncoder :=
  (SessionEncoder.default.encodeAll (wireFrames.1.map (dataEvent streamOne))).getD
    ([], SessionEncoder.default)

/-- Thirty captured frames are one window of sixteen, and fourteen that no window holds yet. -/
theorem captured_pcm_on_wire_example :
    wirePackets = [] ∧ wireMessages.1 = [] ∨
      ∃ (windowFrames : WindowFrames) (payloads : List (List UInt8))
        (parsed : List ParsedWaveform),
        windowFrameCount defaultWindowDuration capture480.sampleRate = .ok windowFrames ∧
        wireMessages.1 = payloads.map .binary ∧ payloads.map parseWaveform = parsed.map .ok ∧
        (∀ k (hk : k < parsed.length),
          parsed[k].sequence = k ∧
          parsed[k].frameIndex = k * windowFrames.get.toNat ∧
          parsed[k].streamTimeNs
            = k * windowFrames.get.toNat * 10^9 / capture480.sampleRate.hz.toNat ∧
          parsed[k].frameCount = windowFrames.get.toNat ∧
          parsed[k].channels = capture480.channelCount) ∧
        ∃ missing, wirePackets.flatMap (packetWords capture480)
            = parsed.flatMap ParsedWaveform.samples ++ missing ∧
          missing.length < windowFrames.get.toNat * capture480.channelCount := by
  have hbuilt : (AudioFrameBuilder.new capture480).pushAll wirePackets
      = .ok (wireFrames.1, wireFrames.2) := by decide +kernel
  have hsome : (SessionEncoder.default.encodeAll
      (wireFrames.1.map (dataEvent streamOne))).isSome := by decide +kernel
  have hencoded : SessionEncoder.default.encodeAll (wireFrames.1.map (dataEvent streamOne))
      = some (wireMessages.1, wireMessages.2) := by
    obtain ⟨p, hp⟩ := Option.isSome_iff_exists.mp hsome
    rw [wireMessages, hp, Option.getD_some]
  exact captured_pcm_on_wire hbuilt hencoded

end ResonanceSignal
