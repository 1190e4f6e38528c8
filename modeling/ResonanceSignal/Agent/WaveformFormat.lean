import ResonanceSignal.Agent.Wire

/-!
# The binary waveform format

The encoder of binary messages against the format that the consumer protocol documents. The
documented parser (`parseDocumented`) is written from the table of offsets and the list of what a
consumer has to reject, and not from the encoder. The encoder refuses a frame exactly where it has
more than two channels or its message would exceed the size bound (`encodeWaveformFrame_eq`), and
what it writes is read back by the documented parser, and by that of the diagnostic consumer, as the
frame's own fields and words (`waveform_format_round_trips`).
-/

namespace ResonanceSignal

/-! ## The documented format -/

/-- The samples of a message, as words. -/
def messageWords (message : List UInt8) : List UInt32 := LittleEndian.unpackWords (message.drop 40)

/-- What the consumer protocol documents of a message, with its fields at their documented offsets.
-/
structure Documented (message : List UInt8) : Prop where
  /-- A message is within the size bound. -/
  bounded : message.length ≤ 1048576
  /-- The magic is `RSWF`. -/
  magic : message.take 4 = [0x52, 0x53, 0x57, 0x46]
  /-- The format version is one. -/
  version : readField message 4 1 = 1
  /-- The header has 40 bytes. -/
  headerLength : readField message 5 1 = 40
  /-- No flag is set. -/
  flags : readField message 6 2 = 0
  /-- There are one or two channels. -/
  channels : readField message 36 2 = 1 ∨ readField message 36 2 = 2
  /-- The reserved bytes are zero. -/
  reserved : readField message 38 2 = 0
  /-- The length is that of the header and of the frames. -/
  length : message.length = 40 + readField message 32 4 * readField message 36 2 * 4
  /-- The samples are finite. -/
  finite : (messageWords message).all fun word => (Sample.mk word).isFinite

instance (message : List UInt8) : Decidable (Documented message) :=
  decidable_of_iff (message.length ≤ 1048576 ∧ message.take 4 = [0x52, 0x53, 0x57, 0x46] ∧
      readField message 4 1 = 1 ∧ readField message 5 1 = 40 ∧ readField message 6 2 = 0 ∧
      (readField message 36 2 = 1 ∨ readField message 36 2 = 2) ∧ readField message 38 2 = 0 ∧
      message.length = 40 + readField message 32 4 * readField message 36 2 * 4 ∧
      (messageWords message).all fun word => (Sample.mk word).isFinite)
    ⟨fun h => ⟨h.1, h.2.1, h.2.2.1, h.2.2.2.1, h.2.2.2.2.1, h.2.2.2.2.2.1, h.2.2.2.2.2.2.1,
        h.2.2.2.2.2.2.2.1, h.2.2.2.2.2.2.2.2⟩,
      fun h => ⟨h.bounded, h.magic, h.version, h.headerLength, h.flags, h.channels, h.reserved,
        h.length, h.finite⟩⟩

/-- The documented parser: it reads the fields of a message, and rejects one that is not as
documented. -/
def parseDocumented (message : List UInt8) : Option ParsedWaveform :=
  if Documented message then
    some
      { sequence := readField message 8 8
        frameIndex := readField message 16 8
        streamTimeNs := readField message 24 8
        frameCount := readField message 32 4
        channels := readField message 36 2
        samples := messageWords message }
  else none

/-! ## The encoder -/

/-- The length of a frame's message. -/
def messageLength (frame : AudioFrame) : ℕ := 40 + frame.count * frame.channels.channels * 4

/-- A payload has four bytes for each sample. -/
theorem length_waveformPayload (frame : AudioFrame) :
    (waveformPayload frame).length = frame.count * frame.channels.channels * 4 := by
  have hlength : frame.samples.length = frame.count * frame.channels.channels := frame.length_eq
  rw [waveformPayload, LittleEndian.length_packWords, List.length_map, hlength, Nat.mul_comm]

/-- The encoder refuses a frame of more than two channels, or one whose message is too long, and
writes the header and the payload of any other. Its other checks never fail. -/
theorem encodeWaveformFrame_eq (sequence : UInt64) (frame : AudioFrame) :
    encodeWaveformFrame sequence frame =
      if 2 < frame.channels.channels then .error .unsupportedChannels
      else if 1048576 < messageLength frame then .error .frameTooLarge
      else .ok (waveformHeader sequence frame ++ waveformPayload frame) := by
  unfold encodeWaveformFrame
  dsimp only
  by_cases hchannels : 2 < frame.channels.channels
  · have hfail : failIf (2 < frame.channels.channelCount.get.toNat) EncodeError.unsupportedChannels
        = .error .unsupportedChannels := if_pos hchannels
    rw [if_pos hchannels, hfail]
    rfl
  · have hpass : failIf (2 < frame.channels.channelCount.get.toNat) EncodeError.unsupportedChannels
        = .ok () := if_neg hchannels
    -- the counts of a frame of two channels at most are far from overflow
    have hcountLt : frame.count < 2^32 := frame.window.frameCount.toNat_lt
    have hsmall : frame.count * frame.channels.channels ≤ 2^32 * 2 :=
      Nat.mul_le_mul hcountLt.le (not_lt.mp hchannels)
    obtain ⟨sampleCount, hmul, hsamples⟩ : ∃ w, Checked.mul frame.window.frameCount.toUInt64
        frame.channels.channelCount.get.toUInt64 = some w ∧
          w.toNat = frame.count * frame.channels.channels :=
      Checked.exists_mul (lt_of_le_of_lt hsmall (by norm_num))
    have hmatch : failIf (sampleCount.toNat ≠ frame.samples.length) EncodeError.sampleCountMismatch
        = .ok () := if_neg (not_not.mpr (hsamples.trans frame.length_eq.symm))
    have hfour : (4 : UInt64).toNat = 4 := rfl
    obtain ⟨payloadLen, hpayload, hpayloadLen⟩ : ∃ w, Checked.mul sampleCount 4 = some w ∧
        w.toNat = sampleCount.toNat * (4 : UInt64).toNat := by
      refine Checked.exists_mul ?_
      rw [hsamples, hfour]
      omega
    rw [hsamples, hfour] at hpayloadLen
    have hheader : binaryHeaderLen.toNat = 40 := rfl
    have hlong : maxBinaryFrameBytes < Checked.saturatingAdd binaryHeaderLen payloadLen ↔
        1048576 < messageLength frame := by
      have hmax : maxBinaryFrameBytes.toNat = 1048576 := rfl
      rw [UInt64.lt_iff_toNat_lt, Checked.saturatingAdd_toNat, hheader, hmax, hpayloadLen,
        messageLength]
      omega
    rw [if_neg hchannels, hpass, hmul]
    simp only [okOr, bind, Except.bind, hmatch, hpayload]
    by_cases hsize : 1048576 < messageLength frame
    · have hfail : failIf (maxBinaryFrameBytes < Checked.saturatingAdd binaryHeaderLen payloadLen)
          EncodeError.frameTooLarge = .error .frameTooLarge := if_pos (hlong.mpr hsize)
      rw [if_pos hsize, hfail]
    · have hpass : failIf (maxBinaryFrameBytes < Checked.saturatingAdd binaryHeaderLen payloadLen)
          EncodeError.frameTooLarge = .ok () := if_neg (mt hlong.mp hsize)
      obtain ⟨total, htotal, -⟩ : ∃ w, Checked.add binaryHeaderLen payloadLen = some w ∧
          w.toNat = binaryHeaderLen.toNat + payloadLen.toNat := Checked.exists_add (by omega)
      rw [if_neg hsize, hpass, htotal]
      rfl

/-- What the encoder writes is the header and the payload of a frame of one or two channels, within
the size bound. -/
theorem encodeWaveformFrame_ok_iff {sequence : UInt64} {frame : AudioFrame} {bytes : List UInt8} :
    encodeWaveformFrame sequence frame = .ok bytes ↔
      frame.channels.channels ≤ 2 ∧ messageLength frame ≤ 1048576 ∧
        bytes = waveformHeader sequence frame ++ waveformPayload frame := by
  rw [encodeWaveformFrame_eq]
  by_cases hchannels : 2 < frame.channels.channels
  · rw [if_pos hchannels]
    exact iff_of_false nofun fun h => not_lt.mpr h.1 hchannels
  · rw [if_neg hchannels]
    by_cases hsize : 1048576 < messageLength frame
    · rw [if_pos hsize]
      exact iff_of_false nofun fun h => not_lt.mpr h.2.1 hsize
    · rw [if_neg hsize, Except.ok.injEq]
      constructor
      · rintro rfl
        exact ⟨not_lt.mp hchannels, not_lt.mp hsize, rfl⟩
      · rintro ⟨-, -, rfl⟩
        rfl

/-- The encoder fails exactly on frames of more than two channels, and on those whose message is too
long. -/
theorem encodeWaveformFrame_error_iff {sequence : UInt64} {frame : AudioFrame} :
    (∃ raised, encodeWaveformFrame sequence frame = .error raised) ↔
      2 < frame.channels.channels ∨ 1048576 < messageLength frame := by
  rw [encodeWaveformFrame_eq]
  by_cases hchannels : 2 < frame.channels.channels
  · rw [if_pos hchannels]
    exact iff_of_true ⟨_, rfl⟩ (.inl hchannels)
  · rw [if_neg hchannels]
    by_cases hsize : 1048576 < messageLength frame
    · rw [if_pos hsize]
      exact iff_of_true ⟨_, rfl⟩ (.inr hsize)
    · rw [if_neg hsize]
      refine iff_of_false ?_ (not_or.mpr ⟨hchannels, hsize⟩)
      rintro ⟨raised, h⟩
      cases h

/-! ## The way back -/

/-- The fields that the diagnostic consumer does not look at are zero in a header. -/
theorem zeroFields_waveformHeader (sequence : UInt64) (frame : AudioFrame) (after : List UInt8) :
    readField (waveformHeader sequence frame ++ after) 6 2 = 0 ∧
      readField (waveformHeader sequence frame ++ after) 38 2 = 0 := by
  have hmagic : binaryMagic.length = 4 := rfl
  have hone : ∀ byte : UInt8, [byte].length = 1 := fun _ => rfl
  have hlen := LittleEndian.length_encode
  have hzero : (0 : ℕ) < 256^2 := by norm_num
  constructor <;> simp only [waveformHeader, List.append_assoc]
  · iterate 3 rw [readField_skip (by simp [hmagic])]
    simp only [hmagic, hone]
    exact readField_encode hzero
  · iterate 9 rw [readField_skip (by simp [hmagic])]
    simp only [hmagic, hone, hlen]
    exact readField_encode hzero

/-- The words of a message are those of its frame's samples. -/
theorem messageWords_message (sequence : UInt64) (frame : AudioFrame) :
    messageWords (waveformHeader sequence frame ++ waveformPayload frame)
      = frame.samples.map Sample.bits := by
  unfold messageWords
  rw [← length_waveformHeader sequence frame, List.drop_left, waveformPayload,
    LittleEndian.unpackWords_packWords]

/-- A message has the length of its header and its frames. -/
theorem length_message (sequence : UInt64) (frame : AudioFrame) :
    (waveformHeader sequence frame ++ waveformPayload frame).length = messageLength frame := by
  rw [List.length_append, length_waveformHeader, length_waveformPayload, messageLength]

/-- What the encoder writes is as documented. -/
theorem documented_of_encode {sequence : UInt64} {frame : AudioFrame} {bytes : List UInt8}
    (h : encodeWaveformFrame sequence frame = .ok bytes) : Documented bytes := by
  obtain ⟨hchannels, hsize, rfl⟩ := encodeWaveformFrame_ok_iff.mp h
  have hfields := headerFields_waveformHeader sequence frame (waveformPayload frame)
  obtain ⟨hflags, hreserved⟩ := zeroFields_waveformHeader sequence frame (waveformPayload frame)
  have hpos := frame.channels.channels_pos
  constructor
  case bounded => rw [length_message]; exact hsize
  case magic => exact hfields.magic
  case version => exact hfields.version
  case headerLength => exact hfields.headerLength
  case flags => exact hflags
  case reserved => exact hreserved
  case channels => rw [hfields.channels]; omega
  case length => rw [length_message, hfields.frameCount, hfields.channels, messageLength]
  case finite =>
    rw [messageWords_message, List.all_map]
    exact List.all_eq_true.mpr frame.finite

/-- The documented parser reads back the frame that a message was encoded from. -/
theorem parseDocumented_encode {sequence : UInt64} {frame : AudioFrame} {bytes : List UInt8}
    (h : encodeWaveformFrame sequence frame = .ok bytes) :
    parseDocumented bytes = some (parsedOf sequence frame) := by
  have hdocumented := documented_of_encode h
  obtain ⟨-, -, rfl⟩ := encodeWaveformFrame_ok_iff.mp h
  have hfields := headerFields_waveformHeader sequence frame (waveformPayload frame)
  unfold parseDocumented parsedOf
  rw [if_pos hdocumented, hfields.sequence, hfields.frameIndex, hfields.streamTimeNs,
    hfields.frameCount, hfields.channels, messageWords_message]

/-- The diagnostic consumer reads a documented message as the documented parser does. -/
theorem parseWaveform_of_documented {message : List UInt8} {parsed : ParsedWaveform}
    (h : parseDocumented message = some parsed) : parseWaveform message = .ok parsed := by
  unfold parseDocumented at h
  by_cases hdocumented : Documented message
  · rw [if_pos hdocumented] at h
    obtain rfl := Option.some.inj h
    have hlength := hdocumented.length
    -- None of the three checks rejects a documented message.
    have hlong : ¬(message.length < 40 ∨ message.take 4 ≠ binaryMagic) := by
      rintro (hshort | hmagic)
      · omega
      · exact hmagic hdocumented.magic
    have hversion : ¬(readField message 4 1 ≠ 1 ∨ readField message 5 1 ≠ 40) := by
      rintro (hversion | hheader)
      · exact hversion hdocumented.version
      · exact hheader hdocumented.headerLength
    have hchannels : ¬(readField message 36 2 ∉ [1, 2] ∨
        message.length ≠ 40 + readField message 32 4 * readField message 36 2 * 4) := by
      rintro (hchannels | hmismatch)
      · exact hchannels (by simpa using hdocumented.channels)
      · exact hmismatch hlength
    have hpayload : (message.drop 40).take (readField message 32 4 * readField message 36 2 * 4)
        = message.drop 40 := by
      refine List.take_of_length_le ?_
      rw [List.length_drop]
      omega
    simp only [parseWaveform, Result.bind_eq_ok, failIf_eq_ok, hpayload]
    exact ⟨(), hlong, (), hversion, (), hchannels, rfl⟩
  · rw [if_neg hdocumented] at h
    cases h

/-- Windows with the same numbers are the same. -/
theorem SignalWindow.eq_of_toNat {window window' : SignalWindow}
    (hindex : window.start.frameIndex.toNat = window'.start.frameIndex.toNat)
    (htime : window.start.streamTimeNs.toNat = window'.start.streamTimeNs.toNat)
    (hcount : window.frameCount.toNat = window'.frameCount.toNat) : window = window' := by
  obtain ⟨⟨index, time⟩, count, hpos⟩ := window
  obtain ⟨⟨index', time'⟩, count', hpos'⟩ := window'
  obtain rfl := UInt64.toNat_inj.mp hindex
  obtain rfl := UInt64.toNat_inj.mp htime
  obtain rfl := UInt32.toNat_inj.mp hcount
  rfl

/-- Two messages with the same bytes say the same of their frames. -/
theorem encodeWaveformFrame_injective {sequence sequence' : UInt64} {frame frame' : AudioFrame}
    {bytes : List UInt8} (h : encodeWaveformFrame sequence frame = .ok bytes)
    (h' : encodeWaveformFrame sequence' frame' = .ok bytes) :
    sequence = sequence' ∧ frame.window = frame'.window ∧
      frame.channels.channels = frame'.channels.channels ∧ frame.samples = frame'.samples := by
  have hparsed : parsedOf sequence frame = parsedOf sequence' frame' :=
    Option.some.inj ((parseDocumented_encode h).symm.trans (parseDocumented_encode h'))
  unfold parsedOf at hparsed
  rw [ParsedWaveform.mk.injEq] at hparsed
  obtain ⟨hsequence, hindex, htime, hcount, hchannels, hwords⟩ := hparsed
  have hwindow := SignalWindow.eq_of_toNat hindex htime hcount
  have hbits : Function.Injective Sample.bits := fun ⟨_⟩ ⟨_⟩ heq => congrArg Sample.mk heq
  exact ⟨UInt64.toNat_inj.mp hsequence, hwindow, hchannels, List.map_injective_iff.mpr hbits hwords⟩

/-- The binary waveform format round-trips, for every sequence number and every frame. The encoder
fails exactly where there are more than two channels or the message would be too long. What it
writes has the length of the header and the samples, and is read back, by the documented parser and
by that of the diagnostic consumer, as the sequence number, the window, the channel count and the
words of the frame. Equal messages come from equal sequence numbers, windows, channel counts and
samples. -/
theorem waveform_format_round_trips (sequence : UInt64) (frame : AudioFrame) :
    ((∃ raised, encodeWaveformFrame sequence frame = .error raised) ↔
      2 < frame.channels.channels ∨ 1048576 < 40 + frame.count * frame.channels.channels * 4) ∧
    (∀ bytes, encodeWaveformFrame sequence frame = .ok bytes →
      bytes.length = 40 + frame.count * frame.channels.channels * 4 ∧
        parseDocumented bytes = some (parsedOf sequence frame) ∧
        parseWaveform bytes = .ok (parsedOf sequence frame)) ∧
    ∀ sequence' frame' bytes, encodeWaveformFrame sequence frame = .ok bytes →
      encodeWaveformFrame sequence' frame' = .ok bytes →
        sequence = sequence' ∧ frame.window = frame'.window ∧
          frame.channels.channels = frame'.channels.channels ∧ frame.samples = frame'.samples := by
  refine ⟨encodeWaveformFrame_error_iff, fun bytes h => ?_, fun sequence' frame' bytes h h' => ?_⟩
  · have hparsed := parseDocumented_encode h
    obtain ⟨-, -, hbytes⟩ := encodeWaveformFrame_ok_iff.mp h
    refine ⟨?_, hparsed, parseWaveform_of_documented hparsed⟩
    rw [hbytes, length_message, messageLength]
  · exact encodeWaveformFrame_injective h h'

end ResonanceSignal
