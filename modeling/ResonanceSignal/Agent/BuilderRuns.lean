import Mathlib.Data.List.Chain
import ResonanceSignal.Agent.Timeline

/-!
# Runs of the frame builder

A run of `push` calls on one builder, with the packets that it rejects among those that it accepts.
The builder advances its device position before its frame index, and both additions can fail. That
the second never fails where the first has passed rests on a relation between the two counters: the
device position is the position of the first accepted packet and the frame index together, so that
the frame index is never the larger one (`Aligned`). On the builders of a run, a rejected packet
therefore leaves nothing behind (`Aligned.push_error`).

The ledger of a run is the list of the packets that were accepted, each with its frame. `Delivered`
relates it to the builder, one call preserves it (`Delivered.push`), and so it holds of every run
(`delivered_of_run`).
-/

namespace ResonanceSignal

namespace AudioFrameBuilder

/-! ## One call -/

/-- The frame index is not past the device position, and it is zero before the first packet. -/
def Aligned (self : AudioFrameBuilder) : Prop :=
  match self.nextDevicePosition with
  | none => self.nextFrameIndex = 0
  | some position => self.nextFrameIndex.toNat ≤ position.toNat

/-- What `build` checks of a packet that it makes a frame of. -/
structure Continues (builder : AudioFrameBuilder) (packet : CapturePacket) : Prop where
  /-- The packet is not empty. -/
  notEmpty : packet.frameCount ≠ 0
  /-- The packet's timestamp is to be trusted. -/
  timestamp : packet.flags.timestampError = false
  /-- A packet that is not the first follows on from the previous one. -/
  noDiscontinuity : builder.nextDevicePosition ≠ none → packet.flags.dataDiscontinuity = false
  /-- The packet starts where it is due on the device's timeline. -/
  position : ∀ position, builder.nextDevicePosition = some position →
    packet.devicePosition = position
  /-- The packet's timestamp is not before the previous one's. -/
  qpc : ∀ previous, builder.previousQpcTimestamp100ns = some previous →
    previous.toNat ≤ packet.qpcTimestamp100ns.toNat

/-- A packet that becomes a frame has passed the checks. -/
theorem continues_of_build {self : AudioFrameBuilder} {packet : CapturePacket}
    {built : BuiltAudioFrame} (h : self.build packet = .ok built) : self.Continues packet := by
  simp only [build, Result.bind_eq_ok, failIf_eq_ok] at h
  obtain ⟨-, hempty, -, htimestamp, -, hdiscontinuity, _, hposition, qpcDelta, hqpc, -⟩ := h
  refine ⟨hempty, Bool.eq_false_iff.mpr htimestamp, fun hsome => ?_, fun position hnext => ?_,
    fun previous hprevious => ?_⟩
  · have hnotFirst : self.nextDevicePosition.isNone = false :=
      Bool.eq_false_iff.mpr fun hnone => hsome (Option.isNone_iff_eq_none.mp hnone)
    exact Bool.eq_false_iff.mpr fun hflag => hdiscontinuity ⟨hnotFirst, hflag⟩
  · unfold checkDevicePosition at hposition
    rw [hnext] at hposition
    exact not_not.mp (failIf_eq_ok.mp hposition)
  · unfold AudioFrameBuilder.qpcDelta at hqpc
    rw [hprevious] at hqpc
    simp only [Result.bind_eq_ok, okOr_eq_ok, Checked.sub_eq_some] at hqpc
    obtain ⟨elapsed, ⟨hle, -⟩, -⟩ := hqpc
    exact hle

/-- How a call of `push` ends, with the builder that it leaves. -/
inductive PushOutcome (self : AudioFrameBuilder) (packet : CapturePacket) :
    Except CaptureError BuiltAudioFrame × AudioFrameBuilder → Prop
  /-- No frame is made. -/
  | rejected (raised : CaptureError) (build : self.build packet = .error raised) :
      PushOutcome self packet (.error raised, self)
  /-- The device position overflows. -/
  | positionOverflow (overflow : 2^64 ≤ packet.devicePosition.toNat + packet.frameCount.toNat) :
      PushOutcome self packet (.error .devicePositionOverflow, self)
  /-- The frame index overflows, after the device position was advanced. -/
  | indexOverflow (built : BuiltAudioFrame) (position : UInt64)
      (build : self.build packet = .ok built)
      (advanced : position.toNat = packet.devicePosition.toNat + packet.frameCount.toNat)
      (overflow : 2^64 ≤ self.nextFrameIndex.toNat + packet.frameCount.toNat) :
      PushOutcome self packet
        (.error .frameIndexOverflow, { self with nextDevicePosition := some position })
  /-- The packet is accepted. -/
  | accepted (built : BuiltAudioFrame) (position index : UInt64)
      (build : self.build packet = .ok built)
      (advanced : position.toNat = packet.devicePosition.toNat + packet.frameCount.toNat)
      (indexed : index.toNat = self.nextFrameIndex.toNat + packet.frameCount.toNat) :
      PushOutcome self packet
        (.ok built, ⟨self.format, some position, index, some packet.qpcTimestamp100ns⟩)

/-- A call of `push` ends in one of these ways. -/
theorem push_spec (self : AudioFrameBuilder) (packet : CapturePacket) :
    PushOutcome self packet (self.push packet) := by
  have hcount : packet.frameCount.toUInt64.toNat = packet.frameCount.toNat :=
    UInt32.toNat_toUInt64 packet.frameCount
  unfold push
  cases hbuild : self.build packet with
  | error raised => exact .rejected raised hbuild
  | ok built =>
    dsimp only
    cases hposition : Checked.add packet.devicePosition packet.frameCount.toUInt64 with
    | none =>
      rw [Checked.add_eq_none, hcount] at hposition
      exact .positionOverflow hposition
    | some position =>
      rw [Checked.add_eq_some, hcount] at hposition
      dsimp only
      cases hindex : Checked.add self.nextFrameIndex packet.frameCount.toUInt64 with
      | none =>
        rw [Checked.add_eq_none, hcount] at hindex
        exact .indexOverflow built position hbuild hposition hindex
      | some index =>
        rw [Checked.add_eq_some, hcount] at hindex
        exact .accepted built position index hbuild hposition hindex

/-- Where the counters are aligned, the end of a frame's index fits where that of its position
does. -/
theorem Aligned.index_lt {self : AudioFrameBuilder} {packet : CapturePacket} (h : self.Aligned)
    (hpacket : self.Continues packet)
    (hposition : packet.devicePosition.toNat + packet.frameCount.toNat < 2^64) :
    self.nextFrameIndex.toNat + packet.frameCount.toNat < 2^64 := by
  have hcount := packet.frameCount.toNat_lt
  unfold Aligned at h
  cases hnext : self.nextDevicePosition with
  | none =>
    rw [hnext] at h
    -- Before the first packet the index is 0.
    have hzero : self.nextFrameIndex.toNat = 0 := by
      rw [h]
      rfl
    omega
  | some position =>
    rw [hnext] at h
    have hdue : packet.devicePosition = position := hpacket.position position hnext
    -- Later the index is below the position, which does not overflow.
    have hle : self.nextFrameIndex.toNat ≤ packet.devicePosition.toNat := by
      rw [hdue]
      exact h
    omega

/-- Where the counters are aligned, a rejected packet leaves the builder as it was. -/
theorem Aligned.push_error {self self' : AudioFrameBuilder} {packet : CapturePacket}
    {raised : CaptureError} (h : self.Aligned)
    (hpush : self.push packet = (.error raised, self')) : self' = self := by
  have hspec := push_spec self packet
  rw [hpush] at hspec
  cases hspec with
  | rejected raised build => rfl
  | positionOverflow overflow => rfl
  | indexOverflow built position build advanced overflow =>
    -- the device position would have overflowed before
    have hposition : packet.devicePosition.toNat + packet.frameCount.toNat < 2^64 := by
      rw [← advanced]
      exact position.toNat_lt
    have hindex := h.index_lt (continues_of_build build) hposition
    omega

/-! ## The ledger of a run -/

/-- The calls of `push` on a builder, each with its packet and what it returned. -/
def packetPushes :
    TransitionSystem AudioFrameBuilder (CapturePacket × Except CaptureError BuiltAudioFrame) :=
  .ofFn fun self packet => some (self.push packet)

/-- A packet that was accepted, with its frame. -/
structure AcceptedPacket where
  /-- The packet. -/
  packet : CapturePacket
  /-- What it became. -/
  built : BuiltAudioFrame
deriving DecidableEq, Repr

/-- The packet of a call, where it was accepted. -/
def acceptedPacket : CapturePacket × Except CaptureError BuiltAudioFrame → Option AcceptedPacket
  | (packet, .ok built) => some ⟨packet, built⟩
  | (_, .error _) => none

/-- The packets that were accepted in a list of calls, in order. -/
def acceptedPackets (calls : List (CapturePacket × Except CaptureError BuiltAudioFrame)) :
    List AcceptedPacket := calls.filterMap acceptedPacket

/-- An accepted packet follows on from the one that was accepted before it. -/
structure Follows (previous next : AcceptedPacket) : Prop where
  /-- The packet starts where the previous one ends on the device's timeline. -/
  devicePosition : next.packet.devicePosition.toNat
    = previous.packet.devicePosition.toNat + previous.packet.frameCount.toNat
  /-- The packet's timestamp is not before the previous one's. -/
  qpc : previous.packet.qpcTimestamp100ns.toNat ≤ next.packet.qpcTimestamp100ns.toNat
  /-- The packet is not marked as discontinuous. -/
  noDiscontinuity : next.packet.flags.dataDiscontinuity = false
  /-- The frame starts where the previous one ends. -/
  frameIndex : next.built.frame.first = previous.built.frame.first + previous.built.frame.count

/-- The frame of an accepted packet. -/
structure FrameOf (format : CaptureFormat) (accepted : AcceptedPacket) : Prop where
  /-- The frame's time is that of its index at the sample rate, rounded down. -/
  time : accepted.built.frame.window.start.streamTimeNs.toNat
    = accepted.built.frame.first * 10^9 / format.sampleRate.hz.toNat
  /-- The frame is as long as the packet. -/
  count : accepted.built.frame.count = accepted.packet.frameCount.toNat
  /-- The frame has the format of the builder. -/
  sampleRate : accepted.built.frame.sampleRate = format.sampleRate
  /-- The frame has the format of the builder. -/
  channels : accepted.built.frame.channels = format.channels
  /-- The frame's samples are the packet's. -/
  samples : accepted.built.frame.samples = samplesOf format accepted.packet
  /-- The samples are finite. -/
  finite : ∀ sample ∈ accepted.built.frame.samples, sample.isFinite

/-- The accepted packets of a run from a fresh builder are one uninterrupted stream, on the timeline
that starts at frame zero. -/
structure Uninterrupted (format : CaptureFormat) (accepted : List AcceptedPacket) : Prop where
  /-- Each packet follows on from the one before it. -/
  chain : accepted.IsChain Follows
  /-- The first frame has index zero. -/
  zero : ∀ first ∈ accepted.head?, first.built.frame.first = 0
  /-- Each packet has become a frame of the stream. -/
  frames : ∀ a ∈ accepted, FrameOf format a

/-- The accepted packets of a run, and the builder that they leave. -/
structure Delivered (format : CaptureFormat) (accepted : List AcceptedPacket)
    (builder : AudioFrameBuilder) : Prop where
  /-- The builder has its format. -/
  format_eq : builder.format = format
  /-- Where no packet was accepted, the builder is a fresh one. -/
  fresh : accepted = [] → builder = new format
  /-- The device position is that of the first packet and the frame index together. -/
  position : ∀ first ∈ accepted.head?, ∃ position, builder.nextDevicePosition = some position ∧
    position.toNat = first.packet.devicePosition.toNat + builder.nextFrameIndex.toNat
  /-- The next packet has to follow on from the last one. -/
  last : ∀ last ∈ accepted.getLast?,
    (∃ position, builder.nextDevicePosition = some position ∧
      position.toNat = last.packet.devicePosition.toNat + last.packet.frameCount.toNat) ∧
    builder.nextFrameIndex.toNat = last.built.frame.first + last.built.frame.count ∧
    builder.previousQpcTimestamp100ns = some last.packet.qpcTimestamp100ns
  /-- The packets are an uninterrupted stream. -/
  stream : Uninterrupted format accepted

section Run

variable {format : CaptureFormat} {accepted : List AcceptedPacket}
  {builder builder' : AudioFrameBuilder} {packet : CapturePacket}

/-- A fresh builder has an empty ledger. -/
theorem delivered_new (format : CaptureFormat) : Delivered format [] (new format) where
  format_eq := rfl
  fresh _ := rfl
  position first hfirst := by cases hfirst
  last last hlast := by cases hlast
  stream :=
    { chain := .nil
      zero := fun first hfirst => by cases hfirst
      frames := fun a ha => by cases ha }

/-- The counters of a builder with a ledger are aligned. -/
theorem Delivered.aligned (h : Delivered format accepted builder) : builder.Aligned := by
  unfold Aligned
  cases accepted with
  | nil =>
    rw [h.fresh rfl]
    rfl
  | cons first rest =>
    obtain ⟨position, hnext, hposition⟩ := h.position first rfl
    rw [hnext]
    show builder.nextFrameIndex.toNat ≤ position.toNat
    omega

/-- The frame of a packet that the builder accepts is one of its format. -/
theorem frameOf_of_built {built : BuiltAudioFrame} (h : BuiltFrom builder packet built.frame) :
    FrameOf builder.format ⟨packet, built⟩ :=
  ⟨h.onGrid, h.count, h.sampleRate, h.channels, h.samples, built.frame.finite⟩

/-- A packet that is accepted continues the stream of a ledger. -/
theorem Delivered.uninterrupted {built : BuiltAudioFrame} (h : Delivered format accepted builder)
    (hbuild : builder.build packet = .ok built) :
    Uninterrupted format (accepted ++ [⟨packet, built⟩]) := by
  have hpacket := continues_of_build hbuild
  have hbuilt := build_eq_ok hbuild
  have hfirst : built.frame.first = builder.nextFrameIndex.toNat := congrArg UInt64.toNat
    hbuilt.frameIndex
  refine ⟨List.isChain_append.mpr ⟨h.stream.chain, .singleton _, fun last hlast next hnext => ?_⟩,
    fun first hhead => ?_, fun a ha => ?_⟩
  · -- The seam between the last accepted packet and this one.
    obtain rfl : ⟨packet, built⟩ = next := Option.some.inj hnext
    obtain ⟨⟨position, hposition, hdue⟩, hindex, hqpc⟩ := h.last last hlast
    have hsome : builder.nextDevicePosition ≠ none := by
      rw [hposition]
      nofun
    refine ⟨?_, hpacket.qpc _ hqpc, hpacket.noDiscontinuity hsome, ?_⟩
    · rw [← hdue, hpacket.position position hposition]
    · rw [← hindex]
      exact hfirst
  · cases accepted with
    | nil =>
      obtain rfl : ⟨packet, built⟩ = first := Option.some.inj hhead
      show built.frame.first = 0
      rw [hfirst, h.fresh rfl]
      rfl
    | cons a rest => exact h.stream.zero first hhead
  · rcases List.mem_append.mp ha with hold | hnew
    · exact h.stream.frames a hold
    · obtain rfl := List.mem_singleton.mp hnew
      rw [← h.format_eq]
      exact frameOf_of_built hbuilt

/-- One call extends the ledger by the packet, where it is accepted. -/
theorem Delivered.push {outcome : Except CaptureError BuiltAudioFrame}
    (h : Delivered format accepted builder) (hpush : builder.push packet = (outcome, builder')) :
    Delivered format (accepted ++ acceptedPackets [(packet, outcome)]) builder' := by
  cases outcome with
  | error raised =>
    -- A rejected packet leaves the builder as it is.
    rw [h.aligned.push_error hpush]
    show Delivered format (accepted ++ []) builder
    rw [List.append_nil]
    exact h
  | ok built =>
    have hspec := push_spec builder packet
    rw [hpush] at hspec
    show Delivered format (accepted ++ [⟨packet, built⟩]) builder'
    cases hspec with
    | accepted built position index build advanced indexed =>
      have hbuilt := build_eq_ok build
      have hfirst : built.frame.first = builder.nextFrameIndex.toNat := congrArg UInt64.toNat
        hbuilt.frameIndex
      refine ⟨h.format_eq, fun hnil => ?_, fun first hhead => ?_, fun last hlast => ?_,
        h.uninterrupted build⟩
      · exact absurd hnil (List.append_ne_nil_of_right_ne_nil _ (List.cons_ne_nil _ _))
      · -- The position advances from the first packet on by the frames that were delivered.
        refine ⟨position, rfl, ?_⟩
        show position.toNat = first.packet.devicePosition.toNat + index.toNat
        cases haccepted : accepted with
        | nil =>
          rw [haccepted] at hhead
          obtain rfl : ⟨packet, built⟩ = first := Option.some.inj hhead
          have hzero : builder.nextFrameIndex.toNat = 0 := by
            rw [h.fresh haccepted]
            rfl
          rw [advanced, indexed, hzero, Nat.zero_add]
        | cons a rest =>
          rw [haccepted] at hhead
          have hold : first ∈ accepted.head? := by
            rw [haccepted]
            exact hhead
          obtain ⟨due, hnext, hdue⟩ := h.position first hold
          rw [(continues_of_build build).position due hnext] at advanced
          omega
      · rw [List.getLast?_concat] at hlast
        obtain rfl : ⟨packet, built⟩ = last := Option.some.inj hlast
        refine ⟨⟨position, rfl, advanced⟩, ?_, rfl⟩
        show index.toNat = built.frame.first + built.frame.count
        rw [indexed, hfirst, hbuilt.count]

/-- Every run from a fresh builder leaves a builder with the ledger of the run. -/
theorem delivered_of_run {calls : List (CapturePacket × Except CaptureError BuiltAudioFrame)}
    (h : packetPushes.Run (new format) calls builder) :
    Delivered format (acceptedPackets calls) builder := by
  refine TransitionSystem.Run.history (I := fun calls builder =>
    Delivered format (acceptedPackets calls) builder) (delivered_new format) ?_ h
  rintro calls builder ⟨packet, outcome⟩ builder' - hdelivered hstep
  have happend : acceptedPackets (calls ++ [(packet, outcome)])
      = acceptedPackets calls ++ acceptedPackets [(packet, outcome)] := List.filterMap_append ..
  rw [happend]
  exact hdelivered.push (Option.some.inj hstep)

/-- The builder is atomic and enforces continuity. After any run of calls from a fresh builder, a
packet that is rejected leaves the builder as it is; the device position is that of the first
accepted packet and the frame index together; and the accepted packets are an uninterrupted stream
of frames from index zero. -/
theorem builder_atomic_and_continuous
    {calls : List (CapturePacket × Except CaptureError BuiltAudioFrame)}
    (h : packetPushes.Run (new format) calls builder) :
    (∀ packet raised builder', builder.push packet = (.error raised, builder') →
      builder' = builder) ∧
    (∀ first, (acceptedPackets calls).head? = some first →
      ∃ position, builder.nextDevicePosition = some position ∧
        position.toNat = first.packet.devicePosition.toNat + builder.nextFrameIndex.toNat) ∧
    Uninterrupted format (acceptedPackets calls) := by
  have hdelivered := delivered_of_run h
  exact ⟨fun packet raised builder' hpush => hdelivered.aligned.push_error hpush,
    hdelivered.position, hdelivered.stream⟩

end Run

/-- A packet, the same packet again, and the one that follows on from it. -/
def repeatedPacket : List CapturePacket :=
  [silentPacket capture48k 5 2, silentPacket capture48k 5 2, silentPacket capture48k 7 2]

/-- The calls on these packets, and the builder that they leave. -/
def repeatedRun : List (CapturePacket × Except CaptureError BuiltAudioFrame) × AudioFrameBuilder :=
  (TransitionSystem.trace (fun self packet => some (push self packet)) (fun _ _ => true)
    (new capture48k) repeatedPacket).getD ([], new capture48k)

example : repeatedRun.1.map (fun call => call.2.toOption.isSome) = [true, false, true] := by
  decide +kernel

/-- A builder that is given a packet twice: the repetition fails, and the next packet is accepted as
if it had not been there. -/
theorem builder_atomic_and_continuous_example :
    (∀ packet raised builder', repeatedRun.2.push packet = (.error raised, builder') →
      builder' = repeatedRun.2) ∧
    (∀ first, (acceptedPackets repeatedRun.1).head? = some first →
      ∃ position, repeatedRun.2.nextDevicePosition = some position ∧
        position.toNat = first.packet.devicePosition.toNat
          + repeatedRun.2.nextFrameIndex.toNat) ∧
    Uninterrupted capture48k (acceptedPackets repeatedRun.1) := by
  have htrace : TransitionSystem.trace (fun self packet => some (push self packet))
      (fun _ _ => true) (new capture48k) repeatedPacket = some (repeatedRun.1, repeatedRun.2) := by
    decide +kernel
  exact builder_atomic_and_continuous (TransitionSystem.run_of_trace htrace).of_restrict

end AudioFrameBuilder

end ResonanceSignal
