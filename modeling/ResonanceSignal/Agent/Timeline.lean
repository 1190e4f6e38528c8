import ResonanceSignal.Agent.Capture
import ResonanceSignal.Core.Tumbling

/-!
# The builder and the scheduler on one timeline

The frame builder places frame `i` at `i * 10^9 / rate` nanoseconds, rounded down, and computes this
in 128 bits. The scheduler computes the time that is due after a frame from that frame's own time
and length, which is the same up to a nanosecond (`grid_step`), and the time of a window boundary
from the stream's origin, in 64 bits. So the frames of a builder pass the scheduler's continuity
checks on streams of any length, and the scheduler fails on them only where its 64-bit product
overflows (`built_frames_accepted_iff`).
-/

namespace ResonanceSignal

namespace AudioFrameBuilder

open WindowScheduler

/-- The number of sample frames in a list of packets. -/
def packetFrames (packets : List CapturePacket) : ℕ :=
  (packets.map fun packet => packet.frameCount.toNat).sum

/-- The frames of packets that the builder accepts are contiguous on the grid, and as long as the
packets. -/
theorem pushAll_eq_ok (fmt : StreamFormat) {self self' : AudioFrameBuilder}
    {packets : List CapturePacket} {frames : List AudioFrame}
    (hrate : fmt.sampleRate = self.format.sampleRate) (hchannels : fmt.channels = self.format.channels)
    (h : self.pushAll packets = .ok (frames, self')) :
    FramesFrom fmt (OnGrid self.format.sampleRate) self.nextFrameIndex.toNat frames ∧
      frames.map AudioFrame.count = packets.map (fun packet => packet.frameCount.toNat) ∧
      frameSamples frames = packets.flatMap (samplesOf self.format) ∧
      self'.nextFrameIndex.toNat = self.nextFrameIndex.toNat + frameCount frames := by
  induction packets generalizing self frames with
  | nil =>
    cases h
    exact ⟨trivial, rfl, rfl, rfl⟩
  | cons packet packets ih =>
    rw [pushAll] at h
    cases hpush : self.push packet with
    | mk outcome next =>
      rw [hpush] at h
      cases outcome with
      | error e => cases h
      | ok built =>
        obtain ⟨hbuilt, hformat, hindex⟩ := push_eq_ok hpush
        dsimp only at h
        cases hrest : next.pushAll packets with
        | error e =>
          rw [hrest] at h
          cases h
        | ok p =>
          rw [hrest] at h
          cases h
          rw [← hformat] at hrate hchannels
          obtain ⟨htail, hcounts, hsamples, hend⟩ := ih hrate hchannels hrest
          rw [hformat] at htail hrate hchannels hsamples
          rw [hindex, ← hbuilt.count] at htail hend
          refine ⟨⟨⟨?_, ?_, ?_, hbuilt.onGrid⟩, htail⟩, ?_, ?_, ?_⟩
          · rw [AudioFrame.first, hbuilt.frameIndex]
          · rw [hbuilt.sampleRate, hrate]
          · rw [hbuilt.channels, hchannels]
          · rw [List.map_cons, List.map_cons, hcounts, hbuilt.count]
          · rw [List.flatMap_cons, ← hsamples, ← hbuilt.samples]
            simp [frameSamples]
          · rw [hend, frameCount_cons, Nat.add_assoc]

/-- Two lists of packets are accepted one after the other. -/
theorem pushAll_append {self last : AudioFrameBuilder} {packets packets' : List CapturePacket}
    {frames : List AudioFrame} (h : self.pushAll (packets ++ packets') = .ok (frames, last)) :
    ∃ frames₁ frames₂ next, frames = frames₁ ++ frames₂ ∧ next.format = self.format ∧
      self.pushAll packets = .ok (frames₁, next) ∧ next.pushAll packets' = .ok (frames₂, last) := by
  induction packets generalizing self frames with
  | nil => exact ⟨[], frames, self, rfl, rfl, rfl, h⟩
  | cons packet packets ih =>
    rw [List.cons_append, pushAll] at h
    rw [pushAll]
    cases hpush : self.push packet with
    | mk outcome builder =>
      rw [hpush] at h
      cases outcome with
      | error e => cases h
      | ok built =>
        obtain ⟨⟨rest, last'⟩, hrest, heq⟩ := Result.map_eq_ok.mp h
        cases heq
        obtain ⟨frames₁, frames₂, next, rfl, hformat, hfirst, hsecond⟩ := ih hrest
        refine ⟨built.frame :: frames₁, frames₂, next, rfl, ?_, ?_, hsecond⟩
        · exact hformat.trans (push_eq_ok hpush).2.1
        · dsimp only
          rw [hfirst]
          rfl

/-- Where the packets' window boundaries have a time that the scheduler can compute: each boundary
strictly inside a packet, times `10^9`, fits in a `u64`. The first packet starts at frame `n`. -/
def PacketBoundariesFit (windowFrames : ℕ) : ℕ → List CapturePacket → Prop
  | _, [] => True
  | n, packet :: packets =>
    (∀ x, n < x → x < n + packet.frameCount.toNat → windowFrames ∣ x → x * 10^9 < 2^64) ∧
      PacketBoundariesFit windowFrames (n + packet.frameCount.toNat) packets

/-- The origin of a built stream's timeline. -/
def zeroTimestamp : FrameTimestamp := ⟨0, 0⟩

/-- On the grid, the time after `c` more frames is the rounded sum of the two times, up to a
nanosecond. -/
theorem grid_step (n c : ℕ) (sampleRate : SampleRate) :
    n * 10^9 / sampleRate.hz.toNat + c * 10^9 / sampleRate.hz.toNat
        ≤ (n + c) * 10^9 / sampleRate.hz.toNat ∧
      (n + c) * 10^9 / sampleRate.hz.toNat
        ≤ n * 10^9 / sampleRate.hz.toNat + c * 10^9 / sampleRate.hz.toNat + 1 := by
  rw [Nat.add_mul, Nat.add_div sampleRate.hz_pos]
  split_ifs <;> omega

/-- A timestamp that the scheduler computes from the origin is on the grid. -/
theorem onGrid_of_timestampForFrameIndex {sampleRate : SampleRate} {i : UInt64}
    {next : FrameTimestamp}
    (h : timestampForFrameIndex zeroTimestamp i sampleRate = .ok next) : OnGrid sampleRate next := by
  obtain ⟨-, hindex, htime⟩ := (timestampForFrameIndex_eq_ok (Nat.zero_le _)).mp h
  rw [OnGrid, hindex, htime]
  simp [zeroTimestamp]

/-- The timestamp at frame zero of the grid is the origin. -/
theorem eq_zeroTimestamp {sampleRate : SampleRate} {ts : FrameTimestamp}
    (hindex : ts.frameIndex.toNat = 0) (h : OnGrid sampleRate ts) : ts = zeroTimestamp := by
  refine FrameTimestamp.ext_toNat hindex ?_
  rw [h, hindex, Nat.zero_mul, Nat.zero_div]
  rfl

/-- Where the end of a packet fits, the boundaries inside it fit the scheduler's timestamps exactly
where their products fit. -/
theorem boundariesFit_iff {fmt : StreamFormat} {n c : ℕ}
    (htime : (n + c) * 10^9 / fmt.sampleRate.hz.toNat < 2^64) :
    BoundariesFit fmt zeroTimestamp n (n + c) ↔
      ∀ x, n < x → x < n + c → fmt.frames ∣ x → x * 10^9 < 2^64 := by
  have hzero : ∀ x, TimestampFits zeroTimestamp fmt.sampleRate x ↔
      x * 10^9 < 2^64 ∧ x * 10^9 / fmt.sampleRate.hz.toNat < 2^64 := by
    intro x
    simp [TimestampFits, zeroTimestamp]
  constructor
  · intro h x hlo hhi hdvd
    exact ((hzero x).mp (h x hlo hhi (by simpa [zeroTimestamp] using hdvd))).1
  · intro h x hlo hhi hdvd
    refine (hzero x).mpr ⟨h x hlo hhi (by simpa [zeroTimestamp] using hdvd), ?_⟩
    exact lt_of_le_of_lt (Nat.div_le_div_right (Nat.mul_le_mul_right _ hhi.le)) htime

section Schedule

variable {ι : Type} [DecidableEq ι] {config : WindowSchedulerConfig} {fmt : StreamFormat}
  {identity : ι} {n : ℕ} {s : WindowScheduler ι}

/-- The scheduler after the first `n` frames of a built stream. -/
inductive Tracks (config : WindowSchedulerConfig) (fmt : StreamFormat) (identity : ι) :
    ℕ → WindowScheduler ι → Prop
  /-- Nothing was pushed yet. -/
  | start : Tracks config fmt identity 0 (.new config)
  /-- The stream has run for `n` frames, and the next frame is due on the grid, up to a
  nanosecond. -/
  | running (frames : List AudioFrame) (windows : List (ScheduledWindow ι)) (due : FrameTimestamp)
      (s : WindowScheduler ι) (config_eq : s.config = config)
      (scheduled : Scheduled fmt identity zeroTimestamp (OnGrid fmt.sampleRate) frames windows s)
      (expectedNext : s.expectedNext = some due)
      (index : due.frameIndex.toNat = WindowScheduler.frameCount frames)
      (time : due.streamTimeNs.toNat ≤
          WindowScheduler.frameCount frames * 10^9 / fmt.sampleRate.hz.toNat ∧
        WindowScheduler.frameCount frames * 10^9 / fmt.sampleRate.hz.toNat
          ≤ due.streamTimeNs.toNat + 1) :
      Tracks config fmt identity (WindowScheduler.frameCount frames) s

/-- A frame of the built stream at frame `n`, whose end fits the clock. -/
structure NextFrame (config : WindowSchedulerConfig) (fmt : StreamFormat) (n : ℕ)
    (frame : AudioFrame) : Prop where
  /-- The frame is due. -/
  frameAt : FrameAt fmt (OnGrid fmt.sampleRate) n frame
  /-- The index of its end fits in a `u64`. -/
  index_lt : n + frame.count < 2^64
  /-- So does the time of its end. -/
  time_lt : (n + frame.count) * 10^9 / fmt.sampleRate.hz.toNat + 1 < 2^64
  /-- The frame is within the bound on a batch. -/
  bounded : frame.count ≤ fmt.frames * config.maxWindowsPerPush.toNat

/-- The scheduler is ready for the next frame: the checks on the stream's state pass. -/
theorem Tracks.ready {frame : AudioFrame} (h : Tracks config fmt identity n s)
    (hf : NextFrame config fmt n frame) :
    s.config = config ∧ s.invalidStream = none ∧ ¬s.formatChanged identity frame ∧
      continuityError (s.due identity) frame.window.start = none := by
  cases h with
  | start =>
    refine ⟨rfl, rfl, ?_, ?_⟩
    · simp [formatChanged, WindowScheduler.new]
    · simp [due, streamChanged, WindowScheduler.new, continuityError]
  | running frames windows due s config_eq scheduled expectedNext index time =>
    obtain ⟨m, hstream, -⟩ := scheduled.stream
    have hsame : s.streamChanged identity = false := by simp [streamChanged, scheduled.active]
    refine ⟨config_eq, scheduled.valid, ?_, ?_⟩
    · simp [formatChanged, hstream.sampleRate, hstream.channels, hf.frameAt.sampleRate,
        hf.frameAt.channels]
    · rw [WindowScheduler.due, hsame, if_neg Bool.false_ne_true, expectedNext,
        continuityError_eq_none]
      rintro _ ⟨⟩
      have hfirst : frame.window.start.frameIndex.toNat = WindowScheduler.frameCount frames :=
        hf.frameAt.first
      refine ⟨UInt64.toNat_inj.mp (hfirst.trans index.symm), ?_⟩
      -- The frame is on the grid, and the due time is at most a nanosecond before it.
      have hgrid := hf.frameAt.start
      rw [OnGrid, hfirst] at hgrid
      rw [Checked.absDiff, hgrid, timestampToleranceNs]
      obtain ⟨h1, h2⟩ := time
      generalize WindowScheduler.frameCount frames * 10^9 / fmt.sampleRate.hz.toNat = t at h1 h2 ⊢
      split_ifs <;> omega

/-- The next frame is admitted exactly where the bound on a batch is representable. -/
theorem Tracks.admits_iff {frame : AudioFrame} (h : Tracks config fmt identity n s)
    (hw : windowFrameCount config.targetWindowDuration fmt.sampleRate = .ok fmt.windowFrames)
    (hf : NextFrame config fmt n frame) :
    (∃ admission, s.Admits identity frame [] admission) ↔
      fmt.frames * config.maxWindowsPerPush.toNat < 2^64 := by
  obtain ⟨hconfig, hinvalid, hformat, hcontinuity⟩ := h.ready hf
  constructor
  · rintro ⟨admission, hadmits⟩
    have hw' := hadmits.windowFrames
    have hmax := hadmits.maximum
    rw [hconfig, hf.frameAt.sampleRate, hw, Except.ok.injEq] at hw'
    rwa [StreamFormat.frames, ← hw', hconfig] at hmax
  · intro hmax
    have hfirst : frame.window.start.frameIndex.toNat = n := hf.frameAt.first
    have hgrid := hf.frameAt.start
    rw [OnGrid, hfirst] at hgrid
    have hstep := (grid_step n frame.count fmt.sampleRate).1
    have htime := hf.time_lt
    -- The end of the frame fits, so that the next timestamp exists.
    have hi : frame.window.start.frameIndex.toNat + frame.window.frameCount.toNat < 2^64 := by
      rw [hfirst]
      exact hf.index_lt
    have ht : frame.window.start.streamTimeNs.toNat +
        frame.window.frameCount.toNat * 10^9 / fmt.sampleRate.hz.toNat < 2^64 := by
      rw [hgrid]
      exact lt_of_le_of_lt hstep (by omega)
    obtain ⟨next, hnext⟩ : ∃ next, advanceTimestamp frame.window.start frame.window.frameCount
        fmt.sampleRate = .ok next :=
      ⟨⟨UInt64.ofNat _, UInt64.ofNat _⟩, advanceTimestamp_eq_ok.mpr
        ⟨UInt64.toNat_ofNat_of_lt' hi, UInt64.toNat_ofNat_of_lt' ht⟩⟩
    refine ⟨⟨s.streamChanged identity, fmt, some next⟩, ?_, rfl, ?_, ?_, ?_, hformat, ?_, ?_, ?_⟩
    · simp [hinvalid]
    · exact hf.frameAt.sampleRate.symm
    · exact hf.frameAt.channels.symm
    · rw [hconfig, hf.frameAt.sampleRate]
      exact hw
    · rwa [hconfig]
    · rw [hconfig, frameCount_cons, frameCount_nil]
      exact hf.bounded
    · rw [validateFrames_cons, hf.frameAt.sampleRate]
      exact ⟨rfl, rfl, hcontinuity, _, hnext, rfl⟩

/-- An admitted next frame is scheduled on the built stream's timeline, and a success extends the
stream's ledger. -/
theorem Tracks.accept {frame : AudioFrame} {admission : Admission}
    (h : Tracks config fmt identity n s)
    (hw : windowFrameCount config.targetWindowDuration fmt.sampleRate = .ok fmt.windowFrames)
    (hf : NextFrame config fmt n frame) (hadmits : s.Admits identity frame [] admission) :
    ∃ base m held, AcceptOutcome s identity fmt zeroTimestamp (OnGrid fmt.sampleRate) base m held
        [frame] (s.accept identity frame [] admission) ∧
      ∀ r s', s.accept identity frame [] admission = some (.ok r, s') →
        ∃ frames windows, WindowScheduler.frameCount frames = n + frame.count ∧
          s'.config = config ∧
          Scheduled fmt identity zeroTimestamp (OnGrid fmt.sampleRate) frames windows s' := by
  have hP : ∀ f ∈ [frame], OnGrid fmt.sampleRate f.window.start := by
    intro f hmem
    obtain rfl := List.mem_singleton.mp hmem
    exact hf.frameAt.start
  cases h with
  | start =>
    have hzero := eq_zeroTimestamp hf.frameAt.first hf.frameAt.start
    have hout := accept_new hadmits ⟨0, rfl⟩ (.inr rfl) (fun _ => rfl) hP fun i next hnext => by
      rw [hzero, hf.frameAt.sampleRate] at hnext
      exact onGrid_of_timestampForFrameIndex hnext
    -- The first frame sets the format, which is the one that the windows are counted for.
    have hfmt : admission.format = fmt := by
      have hw' := hadmits.windowFrames
      rw [hf.frameAt.sampleRate, WindowScheduler.new, hw, Except.ok.injEq] at hw'
      have hrate := hadmits.sampleRate.trans hf.frameAt.sampleRate
      have hchannels := hadmits.channels.trans hf.frameAt.channels
      obtain ⟨changed, ⟨rate, channels, windowFrames⟩, expected⟩ := admission
      obtain ⟨rate', channels', windowFrames'⟩ := fmt
      rw [StreamFormat.mk.injEq]
      exact ⟨hrate, hchannels, hw'.symm⟩
    rw [hfmt] at hout
    refine ⟨_, _, _, by rwa [hzero] at hout, fun r s' hr => ?_⟩
    rw [hr] at hout
    refine ⟨[frame], r.windows, by simp, hout.config_eq.1, ?_⟩
    rw [← hzero]
    exact scheduled_of_started hout
  | running frames windows due s config_eq scheduled expectedNext index time =>
    obtain ⟨m, hstream, hm⟩ := scheduled.stream
    have hout := (accept_continue hadmits scheduled.active scheduled.valid hstream hP).2
    refine ⟨_, _, _, hout, fun r s' hr => ?_⟩
    rw [hr] at hout
    refine ⟨frames ++ [frame], windows ++ r.windows, by simp, ?_,
      scheduled_of_continued scheduled hm hout⟩
    rw [hout.config_eq.1, config_eq]

/-- What pushing the next frame of a built stream does: it succeeds exactly where the bound on a
batch is representable and the boundaries inside the frame fit, and the stream goes on. -/
theorem Tracks.push {frame : AudioFrame} (h : Tracks config fmt identity n s)
    (hw : windowFrameCount config.targetWindowDuration fmt.sampleRate = .ok fmt.windowFrames)
    (hf : NextFrame config fmt n frame) :
    ∃ o s', s.pushBatch identity [frame] = some (o, s') ∧
      ((∃ r, o = .ok r) ↔ fmt.frames * config.maxWindowsPerPush.toNat < 2^64 ∧
        BoundariesFit fmt zeroTimestamp n (n + frame.count)) ∧
      ((∃ r, o = .ok r) → Tracks config fmt identity (n + frame.count) s') := by
  have hadmits := h.admits_iff hw hf
  rw [← hadmits, pushBatch]
  cases hvalidate : s.validateBatch identity frame [] with
  | error rejection =>
    -- A batch that is rejected was not admitted.
    have hnot : ¬∃ admission, s.Admits identity frame [] admission := by
      rintro ⟨admission, ha⟩
      rw [validateBatch_eq_ok.mpr ha] at hvalidate
      cases hvalidate
    have hfalse : ∀ e : SchedulingError,
        ¬∃ r : SchedulingResult ι, (.error e : Except SchedulingError _) = .ok r := by simp
    cases rejection with
    | refused e =>
      exact ⟨_, _, rfl, iff_of_false (hfalse e) fun h => hnot h.1, fun h => absurd h (hfalse e)⟩
    | invalidating e =>
      exact ⟨_, _, rfl, iff_of_false (hfalse e) fun h => hnot h.1, fun h => absurd h (hfalse e)⟩
  | ok admission =>
    have ha := validateBatch_eq_ok.mp hvalidate
    -- An admitted batch is scheduled, or its windows run over the clock.
    obtain ⟨base, m, held, hout, hnext⟩ := h.accept hw hf ha
    have hframe : TimelineFits fmt zeroTimestamp [frame] ↔
        BoundariesFit fmt zeroTimestamp n (n + frame.count) := by
      simp [TimelineFits, hf.frameAt.first]
    dsimp only
    generalize haccept : s.accept identity frame [] admission = outcome at hout
    cases hout with
    | overflow s' config_eq active valid misfit =>
      rw [hframe] at misfit
      have hfalse : ¬∃ r : SchedulingResult ι,
          (.error .timestampOverflow : Except SchedulingError _) = .ok r := by simp
      exact ⟨_, s', rfl, iff_of_false hfalse fun h => misfit h.2, fun h => absurd h hfalse⟩
    | scheduled k ws m' s' buffered config_eq active valid fits contiguous tiled bounded lossless
        number stream =>
      rw [hframe] at fits
      refine ⟨_, s', rfl, iff_of_true ⟨_, rfl⟩ ⟨⟨admission, ha⟩, fits⟩, fun _ => ?_⟩
      obtain ⟨frames, windows, hcount, hconfig, hs⟩ := hnext _ _ haccept
      obtain ⟨-, -, -, next, hadvance, hexpected⟩ := validateFrames_cons.mp ha.validated
      -- The next frame is due at the end of this one, on the grid.
      have hdue : s'.expectedNext = some next := by
        rw [accept_expectedNext haccept, ← Except.ok.inj hexpected]
      obtain ⟨hindex, htime⟩ := advanceTimestamp_eq_ok.mp hadvance
      have hfirst : frame.window.start.frameIndex.toNat = n := hf.frameAt.first
      have hgrid := hf.frameAt.start
      rw [OnGrid, hfirst] at hgrid
      rw [hgrid, hf.frameAt.sampleRate] at htime
      have hstep := grid_step n frame.count fmt.sampleRate
      rw [← hcount]
      refine .running frames windows next s' hconfig hs hdue ?_ ?_
      · rw [hindex, hfirst, hcount]
        rfl
      · rw [hcount, htime]
        exact hstep

/-- The frames of a built stream that are due from frame `n` on, whose ends fit the clock. -/
def NextFrames (config : WindowSchedulerConfig) (fmt : StreamFormat) : ℕ → List AudioFrame → Prop
  | _, [] => True
  | n, frame :: frames =>
    NextFrame config fmt n frame ∧ NextFrames config fmt (n + frame.count) frames

/-- Pushing the frames of a built stream one by one succeeds throughout exactly where the bound on a
batch is representable and all boundaries fit. -/
theorem Tracks.play_iff {frames : List AudioFrame} (h : Tracks config fmt identity n s)
    (hw : windowFrameCount config.targetWindowDuration fmt.sampleRate = .ok fmt.windowFrames)
    (hf : NextFrames config fmt n frames) :
    (∃ calls s', s.play (frames.map fun frame => (identity, [frame])) = some (calls, s') ∧
        ∀ c ∈ calls, c.Succeeds) ↔
      (frames = [] ∨ fmt.frames * config.maxWindowsPerPush.toNat < 2^64) ∧
        TimelineFits fmt zeroTimestamp frames := by
  induction frames generalizing n s with
  | nil => exact iff_of_true ⟨[], s, rfl, nofun⟩ ⟨.inl rfl, by simp [TimelineFits]⟩
  | cons frame frames ih =>
    obtain ⟨hframe, hrest⟩ := hf
    obtain ⟨o, t, hpush, hok, htracks⟩ := h.push hw hframe
    have hfits : TimelineFits fmt zeroTimestamp (frame :: frames) ↔
        BoundariesFit fmt zeroTimestamp n (n + frame.count) ∧
          TimelineFits fmt zeroTimestamp frames := by
      simp [TimelineFits, hframe.frameAt.first]
    rw [hfits, List.map_cons, play, hpush]
    dsimp only
    constructor
    · rintro ⟨calls, s', hplay, hall⟩
      obtain ⟨⟨cs, t'⟩, hcs, heq⟩ := Option.map_eq_some_iff.mp hplay
      cases heq
      obtain ⟨hhead, htail⟩ := List.forall_mem_cons.mp hall
      obtain ⟨hmax, hboundary⟩ := hok.mp hhead
      exact ⟨.inr hmax, hboundary, ((ih (htracks hhead) hrest).mp ⟨cs, t', hcs, htail⟩).2⟩
    · rintro ⟨hmax, hboundary, htail⟩
      have hmax := hmax.resolve_left (by simp)
      have hhead := hok.mpr ⟨hmax, hboundary⟩
      obtain ⟨cs, t', hcs, hall⟩ := (ih (htracks hhead) hrest).mpr ⟨.inr hmax, htail⟩
      exact ⟨⟨identity, [frame], o⟩ :: cs, t', by rw [hcs]; rfl,
        List.forall_mem_cons.mpr ⟨hhead, hall⟩⟩

end Schedule

/-- The boundaries inside the frames of packets are those inside the packets. -/
theorem timelineFits_iff {fmt : StreamFormat} {n : ℕ} {frames : List AudioFrame}
    {packets : List CapturePacket} (hf : FramesFrom fmt (OnGrid fmt.sampleRate) n frames)
    (hcounts : frames.map AudioFrame.count = packets.map fun packet => packet.frameCount.toNat)
    (htime : ∀ f ∈ frames, (f.first + f.count) * 10^9 / fmt.sampleRate.hz.toNat < 2^64) :
    TimelineFits fmt zeroTimestamp frames ↔ PacketBoundariesFit fmt.frames n packets := by
  induction frames generalizing n packets with
  | nil =>
    cases packets with
    | nil => exact iff_of_true (by simp [TimelineFits]) trivial
    | cons p ps => cases hcounts
  | cons f fs ih =>
    cases packets with
    | nil => cases hcounts
    | cons p ps =>
      obtain ⟨hcount, hcounts⟩ := List.cons.inj hcounts
      dsimp only at hcount
      obtain ⟨hhead, htail⟩ := List.forall_mem_cons.mp htime
      have hfits : TimelineFits fmt zeroTimestamp (f :: fs) ↔
          BoundariesFit fmt zeroTimestamp n (n + f.count) ∧ TimelineFits fmt zeroTimestamp fs := by
        simp [TimelineFits, hf.1.first]
      rw [hf.1.first] at hhead
      rw [hfits, boundariesFit_iff hhead, ih hf.2 hcounts htail, PacketBoundariesFit, ← hcount]

/-- Frames that are contiguous on the grid, within the bound, and end within the clock's range are
due one after the other. -/
theorem nextFrames_of_framesFrom {config : WindowSchedulerConfig} {fmt : StreamFormat} {n : ℕ}
    {frames : List AudioFrame} (hf : FramesFrom fmt (OnGrid fmt.sampleRate) n frames)
    (hend : ∀ f ∈ frames, f.first + f.count < 2^64 ∧
      (f.first + f.count) * 10^9 / fmt.sampleRate.hz.toNat + 1 < 2^64)
    (hsize : ∀ f ∈ frames, f.count ≤ fmt.frames * config.maxWindowsPerPush.toNat) :
    NextFrames config fmt n frames := by
  induction frames generalizing n with
  | nil => trivial
  | cons f fs ih =>
    obtain ⟨⟨hindex, htime⟩, hend⟩ := List.forall_mem_cons.mp hend
    obtain ⟨hbound, hsize⟩ := List.forall_mem_cons.mp hsize
    rw [hf.1.first] at hindex htime
    exact ⟨⟨hf.1, hindex, htime, hbound⟩, ih hf.2 hend hsize⟩

/-- Frames on the grid that are as long as packets are accepted throughout, in order, by a fresh
scheduler exactly where the bound on a batch is representable and the boundaries inside the packets
fit. -/
theorem play_frames_iff {ι : Type} [DecidableEq ι] {fmt : StreamFormat}
    {config : WindowSchedulerConfig} (identity : ι) {packets : List CapturePacket}
    {frames : List AudioFrame}
    (hw : windowFrameCount config.targetWindowDuration fmt.sampleRate = .ok fmt.windowFrames)
    (hframes : FramesFrom fmt (OnGrid fmt.sampleRate) 0 frames)
    (hcounts : frames.map AudioFrame.count = packets.map fun packet => packet.frameCount.toNat)
    (hsize : ∀ p ∈ packets, p.frameCount.toNat ≤ config.maxWindowsPerPush.toNat * fmt.frames)
    (hend : ∀ f ∈ frames, f.first + f.count < 2^64 ∧
      (f.first + f.count) * 10^9 / fmt.sampleRate.hz.toNat + 1 < 2^64) :
    (∃ calls s', (WindowScheduler.new config).play (frames.map fun f => (identity, [f]))
        = some (calls, s') ∧ ∀ c ∈ calls, c.Succeeds) ↔
      (packets = [] ∨ config.maxWindowsPerPush.toNat * fmt.frames < 2^64) ∧
        PacketBoundariesFit fmt.frames 0 packets := by
  have hbound : ∀ f ∈ frames, f.count ≤ fmt.frames * config.maxWindowsPerPush.toNat := by
    intro f hf
    have hmem : f.count ∈ packets.map fun packet => packet.frameCount.toNat := by
      rw [← hcounts]
      exact List.mem_map_of_mem hf
    obtain ⟨p, hp, hcount⟩ := List.mem_map.mp hmem
    rw [← hcount, Nat.mul_comm]
    exact hsize p hp
  have hnil : frames = [] ↔ packets = [] := by
    rw [← List.map_eq_nil_iff (f := AudioFrame.count), hcounts, List.map_eq_nil_iff]
  have htime : ∀ f ∈ frames, (f.first + f.count) * 10^9 / fmt.sampleRate.hz.toNat < 2^64 :=
    fun f hf => lt_of_le_of_lt (Nat.le_succ _) (hend f hf).2
  have hstart : Tracks config fmt identity 0 (.new config) := .start
  rw [hstart.play_iff hw (nextFrames_of_framesFrom hframes hend hbound), hnil,
    timelineFits_iff hframes hcounts htime, Nat.mul_comm]

/-- The frames that a builder makes of packets are accepted throughout, in order, by a fresh
scheduler exactly where the bound on a batch is representable and the scheduler's 64-bit products
fit at all window boundaries inside the packets. -/
theorem built_frames_accepted_iff {ι : Type} [DecidableEq ι] {format : CaptureFormat}
    {config : WindowSchedulerConfig} {windowFrames : WindowFrames} (identity : ι)
    {packets : List CapturePacket} {frames : List AudioFrame} {builder : AudioFrameBuilder}
    (hw : windowFrameCount config.targetWindowDuration format.sampleRate = .ok windowFrames)
    (hbuilt : (new format).pushAll packets = .ok (frames, builder))
    (hsize : ∀ p ∈ packets, p.frameCount.toNat ≤
      config.maxWindowsPerPush.toNat * windowFrames.get.toNat)
    (hend : ∀ f ∈ frames, f.first + f.count < 2^64 ∧
      (f.first + f.count) * 10^9 / format.sampleRate.hz.toNat + 1 < 2^64) :
    (∃ calls s', (WindowScheduler.new config).play (frames.map fun f => (identity, [f]))
        = some (calls, s') ∧ ∀ c ∈ calls, c.Succeeds) ↔
      (packets = [] ∨ config.maxWindowsPerPush.toNat * windowFrames.get.toNat < 2^64) ∧
        PacketBoundariesFit windowFrames.get.toNat 0 packets := by
  obtain ⟨hframes, hcounts, -, -⟩ :=
    pushAll_eq_ok ⟨format.sampleRate, format.channels, windowFrames⟩ rfl rfl hbuilt
  exact play_frames_iff identity hw hframes hcounts hsize hend

/-- A silent packet of `frameCount` frames at the device position `n`. -/
def silentPacket (format : CaptureFormat) (n : UInt64) (frameCount : UInt32) : CapturePacket where
  buffer := List.replicate (frameCount.toNat * format.bytesPerFrame) 0
  byteLen := frameCount.toNat * format.bytesPerFrame
  frameCount
  devicePosition := n
  qpcTimestamp100ns := 0
  flags := ⟨false, true, false⟩
  callbackInterval := none
  callbackDuration := .zero
  byteLen_le := by simp

/-- `k` silent packets of one length, one after the other from position `n` on. -/
def silentPackets (format : CaptureFormat) (frameCount : UInt32) : ℕ → UInt64 → List CapturePacket
  | 0, _ => []
  | k + 1, n => silentPacket format n frameCount ::
      silentPackets format frameCount k (n + frameCount.toUInt64)

/-- A builder at frame `n` of a silent stream. -/
structure AtFrame (format : CaptureFormat) (n : UInt64) (builder : AudioFrameBuilder) : Prop where
  /-- The builder has the stream's format. -/
  format : builder.format = format
  /-- The next packet is due at that position, or it is the first. -/
  position : builder.nextDevicePosition = none ∨ builder.nextDevicePosition = some n
  /-- The next frame is frame `n`. -/
  index : builder.nextFrameIndex = n
  /-- No packet had a timestamp yet, or the previous one had the timestamp zero. -/
  qpc : builder.previousQpcTimestamp100ns = none ∨ builder.previousQpcTimestamp100ns = some 0

/-- A builder accepts the silent packet that is due. -/
theorem push_silentPacket {format : CaptureFormat} {n : UInt64} {builder : AudioFrameBuilder}
    {frameCount : UInt32} (h : AtFrame format n builder) (hpos : 0 < frameCount.toNat)
    (hend : n.toNat + frameCount.toNat < 2^64)
    (htime : n.toNat * 10^9 / format.sampleRate.hz.toNat < 2^64) :
    ∃ built next, builder.push (silentPacket format n frameCount) = (.ok built, next) ∧
      AtFrame format (n + frameCount.toUInt64) next := by
  obtain ⟨rfl, hposition, rfl, hqpc⟩ := h
  have hchannels : builder.format.channelCount < 2^16 :=
    builder.format.channels.channelCount.get.toNat_lt
  have hframes := frameCount.toNat_lt
  -- No product of the packet wraps: a frame count has 32 bits, a channel count 16.
  have hcount : frameCount.toNat * builder.format.channelCount < 2^64 :=
    lt_of_lt_of_le (Nat.mul_lt_mul'' hframes hchannels) (by norm_num)
  have hbytes : frameCount.toNat * builder.format.bytesPerFrame < 2^64 := by
    have hmul := Nat.mul_lt_mul'' hframes hchannels
    rw [CaptureFormat.bytesPerFrame, bytesPerF32]
    rw [← Nat.mul_assoc]
    omega
  have hchannels' : builder.format.channelCount < UInt64.size :=
    lt_trans hchannels (by norm_num [UInt64.size])
  have hbytesPerFrame : builder.format.bytesPerFrame < UInt64.size := by
    rw [CaptureFormat.bytesPerFrame, bytesPerF32]
    norm_num [UInt64.size] at hchannels ⊢
    omega
  -- The position and the clock of the packet continue those of the builder.
  obtain ⟨qpcDelta, hdelta⟩ : ∃ qpcDelta, builder.qpcDelta
      (silentPacket builder.format builder.nextFrameIndex frameCount) = .ok qpcDelta := by
    rcases hqpc with hq | hq <;> rw [AudioFrameBuilder.qpcDelta, hq] <;> exact ⟨_, rfl⟩
  have htimeNs : frameTimeNs builder.nextFrameIndex builder.format.sampleRate
      = .ok (UInt64.ofNat
        (builder.nextFrameIndex.toNat * 10^9 / builder.format.sampleRate.hz.toNat)) := by
    have hproduct : builder.nextFrameIndex.toNat * 1000000000 < 2^128 := by
      have := builder.nextFrameIndex.toNat_lt
      omega
    simp only [frameTimeNs, Result.bind_eq_ok, okOr_eq_ok, Checked.mul128_eq_some,
      Checked.ofNat_eq_some]
    exact ⟨_, ⟨rfl, hproduct⟩, UInt64.toNat_ofNat_of_lt' htime⟩
  -- Every check of `build` passes, in its order.
  obtain ⟨built, hbuild⟩ : ∃ built,
      builder.build (silentPacket builder.format builder.nextFrameIndex frameCount) = .ok built := by
    simp only [build, Result.bind_eq_ok, failIf_eq_ok, okOr_eq_ok, Checked.mul_eq_some,
      UInt32.toNat_toUInt64, Result.mapError_eq_ok]
    refine ⟨_, (), ?_, (), by simp [silentPacket], (), by simp [silentPacket], (), ?_, qpcDelta,
      hdelta, UInt64.ofNat (frameCount.toNat * builder.format.bytesPerFrame), ?_, (), ?_,
      UInt64.ofNat (frameCount.toNat * builder.format.channelCount), ?_,
      List.replicate (frameCount.toNat * builder.format.channelCount) Sample.zero, ?_, _, htimeNs,
      _, AudioFrame.new_eq_ok _ _ _ _ frameCount hpos List.length_replicate ?_, rfl⟩
    · intro h
      rw [show frameCount = 0 from h] at hpos
      cases hpos
    · rcases hposition with hp | hp <;> rw [checkDevicePosition, hp]
      rw [failIf_eq_ok]
      simp [silentPacket]
    · rw [UInt64.toNat_ofNat_of_lt' hbytes, UInt64.toNat_ofNat_of_lt' hbytesPerFrame]
      rfl
    · rw [UInt64.toNat_ofNat_of_lt' hbytes]
      simp [silentPacket, CapturePacket.bytes]
    · rw [UInt64.toNat_ofNat_of_lt' hcount, UInt64.toNat_ofNat_of_lt' hchannels']
      rfl
    · rw [packetSamples, if_pos (by rfl), UInt64.toNat_ofNat_of_lt' hcount]
    · intro x hx
      rw [List.eq_of_mem_replicate hx]
      decide
  -- The two counters advance together.
  have hadd : Checked.add builder.nextFrameIndex frameCount.toUInt64
      = some (builder.nextFrameIndex + frameCount.toUInt64) := by
    rw [Checked.add_eq_some, UInt64.toNat_add, UInt32.toNat_toUInt64, Nat.mod_eq_of_lt hend]
  refine ⟨built, ⟨builder.format, some (builder.nextFrameIndex + frameCount.toUInt64),
    builder.nextFrameIndex + frameCount.toUInt64, some 0⟩, ?_, ⟨rfl, .inr rfl, rfl, .inr rfl⟩⟩
  rw [push, hbuild]
  dsimp only [silentPacket]
  rw [hadd]

/-- A builder accepts a run of silent packets whose end fits the clock. -/
theorem pushAll_silentPackets {format : CaptureFormat} {n : UInt64} {builder : AudioFrameBuilder}
    (frameCount : UInt32) (k : ℕ) (h : AtFrame format n builder) (hpos : 0 < frameCount.toNat)
    (hend : n.toNat + k * frameCount.toNat < 2^64)
    (htime : (n.toNat + k * frameCount.toNat) * 10^9 / format.sampleRate.hz.toNat < 2^64) :
    ∃ frames next,
      builder.pushAll (silentPackets format frameCount k n) = .ok (frames, next) := by
  induction k generalizing n builder with
  | zero => exact ⟨[], builder, rfl⟩
  | succ k ih =>
    rw [Nat.succ_mul] at hend htime
    have hstart : n.toNat * 10^9 / format.sampleRate.hz.toNat < 2^64 :=
      lt_of_le_of_lt (Nat.div_le_div_right (Nat.mul_le_mul_right _ (Nat.le_add_right _ _))) htime
    obtain ⟨built, next, hpush, hnext⟩ := push_silentPacket h hpos (by omega) hstart
    have hindex : (n + frameCount.toUInt64).toNat = n.toNat + frameCount.toNat := by
      rw [UInt64.toNat_add, UInt32.toNat_toUInt64, Nat.mod_eq_of_lt (by omega)]
    have hsum : (n + frameCount.toUInt64).toNat + k * frameCount.toNat
        = n.toNat + (k * frameCount.toNat + frameCount.toNat) := by omega
    obtain ⟨frames, last, hrest⟩ := ih hnext (by omega) (by simpa only [hsum] using htime)
    refine ⟨built.frame :: frames, last, ?_⟩
    rw [silentPackets, pushAll, hpush]
    dsimp only
    rw [hrest]
    rfl

/-- Boundaries that fit in a run of silent packets fit in each of them. -/
theorem PacketBoundariesFit.silentPackets {format : CaptureFormat} {windowFrames start k : ℕ}
    {n : UInt64} {frameCount : UInt32}
    (h : PacketBoundariesFit windowFrames start (silentPackets format frameCount k n)) {j x : ℕ}
    (hj : j < k) (hlo : start + j * frameCount.toNat < x)
    (hhi : x < start + j * frameCount.toNat + frameCount.toNat) (hdvd : windowFrames ∣ x) :
    x * 10^9 < 2^64 := by
  induction k generalizing start n j with
  | zero => cases hj
  | succ k ih =>
    cases j with
    | zero => exact h.1 x (by simpa using hlo) (by simpa [silentPacket] using hhi) hdvd
    | succ j =>
      have hshift : start + (j + 1) * frameCount.toNat
          = start + frameCount.toNat + j * frameCount.toNat := by
        rw [Nat.succ_mul]
        omega
      rw [hshift] at hlo hhi
      exact ih h.2 (by omega) hlo hhi

/-- Mono capture at 48 kHz. -/
def capture48k : CaptureFormat := ⟨.rate48k, CaptureFormat.monoLayout⟩

/-- The default window at 48 kHz. -/
def window48k : WindowFrames := ⟨1600, by decide⟩

/-- The default windows at 48 kHz. -/
def format48k : StreamFormat := ⟨.rate48k, capture48k.channels, window48k⟩

/-- The default window has 1600 frames at 48 kHz. -/
theorem windowFrameCount_default_48k :
    windowFrameCount WindowSchedulerConfig.default.targetWindowDuration format48k.sampleRate
      = .ok format48k.windowFrames := by decide +kernel

/-- The lengths of a run of silent packets. -/
theorem map_frameCount_silentPackets (format : CaptureFormat) (frameCount : UInt32) (k : ℕ)
    (n : UInt64) : (silentPackets format frameCount k n).map (fun packet => packet.frameCount.toNat)
      = List.replicate k frameCount.toNat := by
  induction k generalizing n with
  | zero => rfl
  | succ k ih =>
    rw [silentPackets, List.map_cons, ih, List.replicate_succ]
    rfl

/-- The frames of two packets of ten milliseconds each. -/
def twentyMilliseconds : List AudioFrame × AudioFrameBuilder :=
  ((new capture48k).pushAll (silentPackets capture48k 480 2 0)).toOption.getD ([], new capture48k)

/-- Those frames are accepted. -/
theorem built_frames_accepted_iff_example :
    (∃ calls s', (WindowScheduler.new .default).play (twentyMilliseconds.1.map fun f => (0, [f]))
        = some (calls, s') ∧ ∀ c ∈ calls, c.Succeeds) ↔
      (silentPackets capture48k 480 2 0 = [] ∨
        WindowSchedulerConfig.default.maxWindowsPerPush.toNat * window48k.get.toNat < 2^64) ∧
        PacketBoundariesFit window48k.get.toNat 0 (silentPackets capture48k 480 2 0) := by
  have hbuilt : (new capture48k).pushAll (silentPackets capture48k 480 2 0)
      = .ok (twentyMilliseconds.1, twentyMilliseconds.2) := by decide +kernel
  have hw : windowFrameCount WindowSchedulerConfig.default.targetWindowDuration
      capture48k.sampleRate = .ok window48k := windowFrameCount_default_48k
  have hsize : ∀ p ∈ silentPackets capture48k 480 2 0, p.frameCount.toNat ≤
      WindowSchedulerConfig.default.maxWindowsPerPush.toNat * window48k.get.toNat := by
    decide +kernel
  have hend : ∀ f ∈ twentyMilliseconds.1, f.first + f.count < 2^64 ∧
      (f.first + f.count) * 10^9 / capture48k.sampleRate.hz.toNat + 1 < 2^64 := by
    decide +kernel
  exact built_frames_accepted_iff 0 hw hbuilt hsize hend

/-- Ten milliseconds of silence at a time, in the default windows at 48 kHz: after 38430723 packets,
some four and a half days, the next one has a window boundary inside it whose product overflows. -/
theorem built_frames_not_always_accepted :
    ¬∀ (format : CaptureFormat) (config : WindowSchedulerConfig) (windowFrames : WindowFrames)
        (identity : ℕ) (packets : List CapturePacket) (frames : List AudioFrame)
        (builder : AudioFrameBuilder),
      windowFrameCount config.targetWindowDuration format.sampleRate = .ok windowFrames →
      (new format).pushAll packets = .ok (frames, builder) →
      (∀ p ∈ packets, p.frameCount.toNat ≤
        config.maxWindowsPerPush.toNat * windowFrames.get.toNat) →
      (∀ f ∈ frames, f.first + f.count < 2^64 ∧
        (f.first + f.count) * 10^9 / format.sampleRate.hz.toNat + 1 < 2^64) →
      ∃ calls s', (WindowScheduler.new config).play (frames.map fun f => (identity, [f]))
        = some (calls, s') ∧ ∀ c ∈ calls, c.Succeeds := by
  intro h
  have hstart : AtFrame capture48k 0 (new capture48k) := ⟨rfl, .inl rfl, rfl, .inl rfl⟩
  obtain ⟨frames, builder, hbuilt⟩ := pushAll_silentPackets 480 38430724
    hstart (by decide) (by decide) (by decide +kernel)
  obtain ⟨hframes, hcounts, -, -⟩ := pushAll_eq_ok format48k rfl rfl hbuilt
  have htotal : WindowScheduler.frameCount frames = 18446747520 := by
    rw [WindowScheduler.frameCount, hcounts, map_frameCount_silentPackets, List.sum_replicate_nat]
    rfl
  have hend : ∀ f ∈ frames, f.first + f.count < 2^64 ∧
      (f.first + f.count) * 10^9 / format48k.sampleRate.hz.toNat + 1 < 2^64 := by
    intro f hf
    have hle := hframes.end_le f hf
    rw [htotal] at hle
    have htime := Nat.div_le_div_right (c := format48k.sampleRate.hz.toNat)
      (Nat.mul_le_mul_right (10^9) hle)
    exact ⟨lt_of_le_of_lt hle (by decide),
      lt_of_le_of_lt (Nat.succ_le_succ htime) (by decide +kernel)⟩
  have hsize : ∀ p ∈ silentPackets capture48k 480 38430724 0, p.frameCount.toNat ≤
      WindowSchedulerConfig.default.maxWindowsPerPush.toNat * format48k.frames := by
    intro p hp
    have hmem := List.mem_map_of_mem (f := fun packet => packet.frameCount.toNat) hp
    rw [map_frameCount_silentPackets] at hmem
    rw [List.eq_of_mem_replicate hmem]
    decide
  have hplay := h capture48k WindowSchedulerConfig.default window48k 0 _ frames builder
    windowFrameCount_default_48k hbuilt hsize hend
  have hfits := ((play_frames_iff 0 windowFrameCount_default_48k hframes hcounts hsize hend).mp
    hplay).2
  have hproduct := hfits.silentPackets (j := 38430723) (x := 18446747200) (by decide) (by decide)
    (by decide) (by decide)
  exact absurd hproduct (by decide)

end AudioFrameBuilder

end ResonanceSignal
